import Concordance.Proofs.Text.Pieces
import Concordance.Text.Blank

/-! Trimming takes nothing from a text that neither starts nor ends in a character of the class. -/

namespace Concordance.Text

/-- Neither the first nor the last character is of the class `p`. -/
structure Solid (p : Char → Bool) (cs : List Char) : Prop where
  head : ∀ c ∈ cs.head?, p c = false
  last : ∀ c ∈ cs.getLast?, p c = false

variable {p : Char → Bool} {cs ds : List Char}

theorem Solid.nil : Solid p [] := ⟨nofun, nofun⟩

theorem Solid.append (first : Solid p cs) (second : Solid p ds) : Solid p (cs ++ ds) := by
  constructor
  · intro c member
    cases cs with
    | nil => exact second.head c member
    | cons d cs => exact first.head c member
  · intro c member
    rw [Option.mem_def, List.getLast?_append, Option.or_eq_some_iff] at member
    rcases member with member | ⟨-, member⟩
    · exact second.last c member
    · exact first.last c member

theorem Solid.single {c : Char} (h : p c = false) : Solid p [c] :=
  ⟨by intro d same; cases same; exact h, by intro d same; cases same; exact h⟩

theorem Solid.surround (first : Solid p cs) (second : Solid p ds) (hc : cs ≠ []) (hd : ds ≠ [])
    (gap : List Char) : Solid p (cs ++ gap ++ ds) := by
  constructor
  · intro c member
    obtain ⟨d, tail, rfl⟩ := List.exists_cons_of_ne_nil hc
    exact first.head c member
  · intro c member
    rw [Option.mem_def, List.getLast?_append, Option.or_eq_some_iff] at member
    rcases member with member | ⟨none, -⟩
    · exact second.last c member
    · exact absurd (List.getLast?_eq_none_iff.mp none) hd

theorem Solid.between {a b : Char} (ha : p a = false) (hb : p b = false) (gap : List Char) :
    Solid p (a :: gap ++ [b]) :=
  (Solid.single ha).surround (.single hb) nofun nofun gap

theorem dropWhile_of_head (head : ∀ c ∈ cs.head?, p c = false) : cs.dropWhile p = cs := by
  cases cs with
  | nil => rfl
  | cons c cs => simp [head c rfl]

theorem trimEnd_of_last (last : ∀ c ∈ cs.getLast?, p c = false) : trimEnd p cs = cs := by
  have head : ∀ c ∈ cs.reverse.head?, p c = false := by
    rwa [List.head?_reverse]
  rw [trimEnd, dropWhile_of_head head, List.reverse_reverse]

theorem trimEnd_concat {c : Char} (cs : List Char) (h : p c) :
    trimEnd p (cs ++ [c]) = trimEnd p cs := by
  rw [trimEnd, trimEnd, List.reverse_concat, List.dropWhile_cons_of_pos h]

theorem isPrefix_trimEnd (p : Char → Bool) (cs : List Char) : trimEnd p cs <+: cs := by
  have suffix : cs.reverse.dropWhile p <:+ cs.reverse := List.dropWhile_suffix p
  have reversed := List.reverse_prefix.mpr suffix
  rwa [List.reverse_reverse] at reversed

theorem last_trimEnd (p : Char → Bool) (cs : List Char) :
    ∀ c ∈ (trimEnd p cs).getLast?, p c = false := by
  intro c member
  rw [trimEnd, List.getLast?_reverse, Option.mem_def] at member
  have stop := List.head?_dropWhile_not p cs.reverse
  rw [member] at stop
  exact stop

theorem solid_trimBy (p : Char → Bool) (cs : List Char) : Solid p (trimBy p cs) := by
  constructor
  · intro c member
    obtain ⟨rest, whole⟩ := isPrefix_trimEnd p (cs.dropWhile p)
    have first : (cs.dropWhile p).head? = some c := by
      rw [← whole, List.head?_append, show (trimEnd p (cs.dropWhile p)).head? = some c from member]
      rfl
    have stop := List.head?_dropWhile_not p cs
    rw [first] at stop
    exact stop
  · exact last_trimEnd p (cs.dropWhile p)

theorem Solid.trimBy (solid : Solid p cs) : trimBy p cs = cs := by
  rw [Text.trimBy, dropWhile_of_head solid.head, trimEnd_of_last solid.last]

theorem trimBy_cons {c : Char} (cs : List Char) (h : p c) : trimBy p (c :: cs) = trimBy p cs := by
  rw [trimBy, trimBy, List.dropWhile_cons_of_pos h]

theorem Solid.trimBy_concat (solid : Solid p cs) (filled : cs ≠ []) {c : Char} (h : p c) :
    Text.trimBy p (cs ++ [c]) = cs := by
  obtain ⟨d, rest, rfl⟩ := List.exists_cons_of_ne_nil filled
  have start : p d = false := solid.head d rfl
  rw [Text.trimBy, List.cons_append, List.dropWhile_cons_of_neg (by simp [start]),
    ← List.cons_append, trimEnd_concat _ h, trimEnd_of_last solid.last]

theorem Solid.trimBy_between (first : Solid p cs) (second : Solid p ds) {c : Char} (h : p c) :
    Text.trimBy p (cs ++ c :: ds) =
      if cs = [] then ds else if ds = [] then cs else cs ++ c :: ds := by
  split
  · next empty => rw [empty, List.nil_append, trimBy_cons ds h, second.trimBy]
  · next filled =>
    split
    · next empty => rw [empty, first.trimBy_concat filled h]
    · next filled' =>
      have around := first.surround second filled filled' [c]
      rw [List.append_assoc, List.singleton_append] at around
      exact around.trimBy

theorem trim_trim (cs : List Char) : trim (trim cs) = trim cs :=
  (solid_trimBy isBlank cs).trimBy

theorem isBlank_of_isSpacing {c : Char} (h : isSpacing c) : isBlank c := by
  simp only [isSpacing, Bool.or_eq_true, beq_iff_eq] at h
  rcases h with (((rfl | rfl) | rfl) | rfl) | rfl <;> decide

theorem isSpacing_of_isBlank {c : Char} (h : isBlank c = false) : isSpacing c = false := by
  rw [← Bool.not_eq_true] at h ⊢
  exact fun spacing => h (isBlank_of_isSpacing spacing)

theorem Solid.skip (solid : Solid isBlank cs) : skip cs = cs :=
  dropWhile_of_head fun c member => isSpacing_of_isBlank (solid.head c member)

theorem solid_spaced {ps : List (List Char)} (named : ∀ p ∈ ps, p ≠ [])
    (solid : ∀ p ∈ ps, Solid isBlank p) : Solid isBlank (spaced ps) := by
  induction ps with
  | nil => exact .nil
  | cons p ps ih =>
    have first := solid p List.mem_cons_self
    have later := ih (fun q member => named q (List.mem_cons_of_mem p member))
      fun q member => solid q (List.mem_cons_of_mem p member)
    cases ps with
    | nil => exact first
    | cons q qs =>
      have next : joined ' ' (q :: qs) ≠ [] :=
        joined_ne_nil qs (named q (List.mem_cons_of_mem p List.mem_cons_self))
      have around := first.surround later (named p List.mem_cons_self) next [' ']
      rw [spaced, joined_cons ' ' p (List.cons_ne_nil q qs)]
      rwa [List.append_assoc, List.singleton_append] at around

end Concordance.Text
