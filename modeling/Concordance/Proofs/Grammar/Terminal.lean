import Concordance.Proofs.Grammar
import Concordance.Proofs.Text.Quoted

/-! Classes of texts for the terminals of a grammar, and the readers that take the longest text of
a class. -/

namespace Concordance.Grammar

open Text (skip)

def oneOf (p : Char → Bool) : Language Char := {s | ∃ c, p c ∧ s = [c]}

def exactly (w : List Char) : Language Char := {s | s = w}

def nameOf (more : Char → Bool) : Language Char :=
  oneOf Text.isNameStart * KStar.kstar (oneOf more)

def digits : Language Char := oneOf Char.isDigit * KStar.kstar (oneOf Char.isDigit)

/-- A backslash and the character it takes with it, which is no line feed. -/
def escape : Language Char := exactly ['\\'] * oneOf (· != '\n')

/-- What stands between two quotes: escapes, and characters that neither escape nor close. -/
def insideOf (mark : Char) : Language Char :=
  KStar.kstar (escape + oneOf fun c => c != mark && c != '\\')

def quotedBy (mark : Char) : Language Char := exactly [mark] * insideOf mark * exactly [mark]

section Classes

variable {p : Char → Bool} {s t : List Char}

theorem mem_oneOf : s ∈ oneOf p ↔ ∃ c, p c ∧ s = [c] := Iff.rfl

theorem mem_exactly {w : List Char} : s ∈ exactly w ↔ s = w := Iff.rfl

theorem mem_escape : s ∈ escape ↔ ∃ c, c ≠ '\n' ∧ s = ['\\', c] := by
  simp only [escape, Language.mem_mul, mem_exactly, mem_oneOf, bne_iff_ne, ne_eq]
  constructor
  · rintro ⟨_, rfl, _, ⟨c, feed, rfl⟩, rfl⟩
    exact ⟨c, feed, rfl⟩
  · rintro ⟨c, feed, rfl⟩
    exact ⟨_, rfl, _, ⟨c, feed, rfl⟩, rfl⟩

theorem append_mem_kstar {l : Language Char} (first : s ∈ l) (others : t ∈ KStar.kstar l) :
    s ++ t ∈ KStar.kstar l := by
  obtain ⟨parts, rfl, each⟩ := others
  exact ⟨s :: parts, rfl, List.forall_mem_cons.mpr ⟨first, each⟩⟩

theorem mem_kstar_oneOf : s ∈ KStar.kstar (oneOf p) ↔ ∀ c ∈ s, p c := by
  constructor
  · rintro ⟨parts, rfl, each⟩ c member
    obtain ⟨part, given, inside⟩ := List.mem_flatten.mp member
    obtain ⟨d, known, rfl⟩ := each part given
    rwa [List.mem_singleton.mp inside]
  · intro all
    induction s with
    | nil => exact Language.nil_mem_kstar _
    | cons c s ih =>
      have first : [c] ∈ oneOf p := ⟨c, all c List.mem_cons_self, rfl⟩
      exact append_mem_kstar first (ih fun d member => all d (List.mem_cons_of_mem c member))

theorem mem_nameOf {more : Char → Bool} :
    s ∈ nameOf more ↔ ∃ c cs, Text.isNameStart c ∧ (∀ d ∈ cs, more d) ∧ s = c :: cs := by
  simp only [nameOf, Language.mem_mul, mem_oneOf, mem_kstar_oneOf]
  constructor
  · rintro ⟨_, ⟨c, start, rfl⟩, cs, all, rfl⟩
    exact ⟨c, cs, start, all, rfl⟩
  · rintro ⟨c, cs, start, all, rfl⟩
    exact ⟨[c], ⟨c, start, rfl⟩, cs, all, rfl⟩

theorem mem_digits : s ∈ digits ↔ s ≠ [] ∧ ∀ c ∈ s, c.isDigit := by
  simp only [digits, Language.mem_mul, mem_oneOf, mem_kstar_oneOf]
  constructor
  · rintro ⟨_, ⟨c, digit, rfl⟩, cs, all, rfl⟩
    exact ⟨List.cons_ne_nil _ _, List.forall_mem_cons.mpr ⟨digit, all⟩⟩
  · rintro ⟨filled, all⟩
    obtain ⟨c, cs, rfl⟩ := List.exists_cons_of_ne_nil filled
    obtain ⟨digit, others⟩ := List.forall_mem_cons.mp all
    exact ⟨[c], ⟨c, digit, rfl⟩, cs, others, rfl⟩

theorem mem_quotedBy {mark : Char} :
    s ∈ quotedBy mark ↔ ∃ t ∈ insideOf mark, s = mark :: t ++ [mark] := by
  simp only [quotedBy, Language.mem_mul, mem_exactly]
  constructor
  · rintro ⟨_, ⟨_, rfl, t, inside, rfl⟩, _, rfl, rfl⟩
    exact ⟨t, inside, rfl⟩
  · rintro ⟨t, inside, rfl⟩
    exact ⟨_, ⟨_, rfl, t, inside, rfl⟩, _, rfl, rfl⟩

end Classes

/-! ### Readers -/

structure Scans (scan : List Char → Option (List Char × List Char)) (l : Language Char) : Prop where
  sound : ∀ {cs s r}, scan cs = some (s, r) → cs = s ++ r ∧ s ∈ l
  longest : ∀ {s} r, s ∈ l → ∃ t u, scan (s ++ r) = some (t, u) ∧ s.length ≤ t.length

theorem Scans.lexeme_iff {scan : List Char → Option (List Char × List Char)} {l : Language Char}
    (scans : Scans scan l) {cs s r : List Char} : Lexeme l cs s r ↔ scan cs = some (s, r) := by
  constructor
  · rintro ⟨rfl, mem, longest⟩
    obtain ⟨t, u, found, long⟩ := scans.longest r mem
    obtain ⟨text, given⟩ := scans.sound found
    have short := longest t ⟨u, text.symm⟩ given
    obtain ⟨rfl, rfl⟩ := List.append_inj text (Nat.le_antisymm long short)
    exact found
  · intro found
    obtain ⟨text, mem⟩ := scans.sound found
    refine ⟨text, mem, ?_⟩
    rintro t ⟨u, rfl⟩ given
    obtain ⟨v, w, again, long⟩ := scans.longest u given
    rw [again] at found
    cases found
    exact long

theorem lexeme_exactly {w cs s r : List Char} :
    Lexeme (exactly w) cs s r ↔ s = w ∧ cs = w ++ r := by
  constructor
  · rintro ⟨rfl, rfl, -⟩
    exact ⟨rfl, rfl⟩
  · rintro ⟨rfl, rfl⟩
    exact ⟨rfl, rfl, fun t _ same => by rw [mem_exactly.mp same]⟩

theorem lexeme_add {l m : Language Char} {cs s r : List Char}
    (apart : ∀ s ∈ l, ∀ t ∈ m, ∃ c d, s.head? = some c ∧ t.head? = some d ∧ c ≠ d) :
    Lexeme (l + m) cs s r ↔ Lexeme l cs s r ∨ Lexeme m cs s r := by
  have clash {s t : List Char} (hs : s ∈ l) (ht : t ∈ m) (first : s <+: cs) (second : t <+: cs) :
      False := by
    obtain ⟨c, d, head, head', differ⟩ := apart s hs t ht
    obtain ⟨⟨u, rfl⟩, v, same⟩ := And.intro first second
    obtain ⟨x, rfl⟩ := List.head?_eq_some_iff.mp head
    obtain ⟨y, rfl⟩ := List.head?_eq_some_iff.mp head'
    rw [List.cons_append, List.cons_append, List.cons.injEq] at same
    exact differ same.1.symm
  constructor
  · rintro ⟨text, mem | mem, longest⟩
    · exact .inl ⟨text, mem, fun t start given => longest t start (.inl given)⟩
    · exact .inr ⟨text, mem, fun t start given => longest t start (.inr given)⟩
  · rintro (⟨text, mem, longest⟩ | ⟨text, mem, longest⟩)
    · refine ⟨text, .inl mem, ?_⟩
      rintro t start (given | given)
      · exact longest t start given
      · exact (clash mem given ⟨r, text.symm⟩ start).elim
    · refine ⟨text, .inr mem, ?_⟩
      rintro t start (given | given)
      · exact (clash given mem start ⟨r, text.symm⟩).elim
      · exact longest t start given

theorem lexeme_exactly_add {c d : Char} {v w cs s r : List Char} (differ : c ≠ d) :
    Lexeme (exactly (c :: v) + exactly (d :: w)) cs s r ↔
      s = c :: v ∧ cs = c :: v ++ r ∨ s = d :: w ∧ cs = d :: w ++ r := by
  rw [lexeme_add, lexeme_exactly, lexeme_exactly]
  intro s hs t ht
  rw [mem_exactly.mp hs, mem_exactly.mp ht]
  exact ⟨c, d, rfl, rfl, differ⟩

theorem scans_nameOf (more : Char → Bool) : Scans (Text.name? more) (nameOf more) where
  sound := by
    intro cs s r found
    cases cs with
    | nil => cases found
    | cons c cs =>
      simp only [Text.name?, Option.ite_none_right_eq_some, Option.some.injEq,
        Prod.mk.injEq] at found
      obtain ⟨start, rfl, rfl⟩ := found
      constructor
      · rw [List.cons_append, List.takeWhile_append_dropWhile]
      · exact mem_nameOf.mpr ⟨c, _, start, fun d => List.mem_takeWhile_imp, rfl⟩
  longest := by
    intro s r mem
    obtain ⟨c, cs, start, all, rfl⟩ := mem_nameOf.mp mem
    refine ⟨_, _, by rw [List.cons_append, Text.name?, if_pos start], ?_⟩
    simp [List.takeWhile_append_of_pos all]

theorem scans_digits {scan : List Char → Option (List Char × List Char)}
    (spans : ∀ cs, scan cs = if (cs.takeWhile Char.isDigit).isEmpty then none else
      some (cs.takeWhile Char.isDigit, cs.dropWhile Char.isDigit)) : Scans scan digits where
  sound := by
    intro cs s r found
    rw [spans, Option.ite_none_left_eq_some, Option.some.injEq, Prod.mk.injEq] at found
    obtain ⟨filled, rfl, rfl⟩ := found
    refine ⟨List.takeWhile_append_dropWhile.symm, mem_digits.mpr ⟨?_, ?_⟩⟩
    · rwa [List.isEmpty_iff] at filled
    · exact fun c => List.mem_takeWhile_imp
  longest := by
    intro s r mem
    obtain ⟨filled, all⟩ := mem_digits.mp mem
    have taken : (s ++ r).takeWhile Char.isDigit = s ++ r.takeWhile Char.isDigit :=
      List.takeWhile_append_of_pos all
    have kept : ((s ++ r).takeWhile Char.isDigit).isEmpty = false := by
      rw [taken, List.isEmpty_eq_false_iff]
      exact List.append_ne_nil_of_left_ne_nil filled _
    refine ⟨_, _, by rw [spans, kept]; rfl, ?_⟩
    rw [taken, List.length_append]
    exact Nat.le_add_right _ _

theorem of_inside? {mark : Char} {cs s r : List Char}
    (read : Quoted.inside? mark cs = some (s, r)) : cs = s ++ mark :: r ∧ s ∈ insideOf mark := by
  fun_induction Quoted.inside? mark cs generalizing s r with
  | case1 => cases read
  | case2 cs => cases read
  | case3 c cs feed ih =>
    simp only [Option.map_eq_some_iff, Prod.mk.injEq, Prod.exists] at read
    obtain ⟨inner, rest, read, rfl, rfl⟩ := read
    obtain ⟨rfl, inside⟩ := ih read
    exact ⟨rfl, append_mem_kstar (.inl (mem_escape.mpr ⟨c, feed, rfl⟩)) inside⟩
  | case4 cs single =>
    cases read
    exact ⟨rfl, Language.nil_mem_kstar _⟩
  | case5 cs ends single => cases read
  | case6 c cs single other plain ih =>
    simp only [Option.map_eq_some_iff, Prod.mk.injEq, Prod.exists] at read
    obtain ⟨inner, rest, read, rfl, rfl⟩ := read
    obtain ⟨rfl, inside⟩ := ih read
    have unit : [c] ∈ oneOf fun c => c != mark && c != '\\' := ⟨c, by simp [other, plain], rfl⟩
    exact ⟨rfl, append_mem_kstar (.inr unit) inside⟩

section Quotes

variable {mark : Char} (quote : mark ≠ '\\')
include quote

theorem inside?_of_mem {s : List Char} (inside : s ∈ insideOf mark) (r : List Char) :
    Quoted.inside? mark (s ++ mark :: r) = some (s, r) := by
  obtain ⟨parts, rfl, each⟩ := inside
  induction parts with
  | nil =>
    rw [List.flatten_nil, List.nil_append, Quoted.inside?]
    · rw [if_pos rfl]
    · intro _ _ same
      exact absurd same quote
  | cons part parts ih =>
    obtain ⟨first, others⟩ := List.forall_mem_cons.mp each
    have later := ih others
    rcases first with escaped | ⟨c, plain, rfl⟩
    · obtain ⟨c, feed, rfl⟩ := mem_escape.mp escaped
      simp [Quoted.inside?, feed, later]
    · simp only [Bool.and_eq_true, bne_iff_ne, ne_eq] at plain
      rw [List.flatten_cons, List.singleton_append, List.cons_append,
        Quoted.inside?_cons _ plain.1 plain.2, later]
      rfl

theorem lexeme_quotedBy {cs s r : List Char} :
    Lexeme (quotedBy mark) cs s r ↔
      ∃ t u, cs = mark :: u ∧ Quoted.inside? mark u = some (t, r) ∧ s = mark :: t ++ [mark] := by
  have only {t v x : List Char} (inside : v ∈ insideOf mark)
      (read : Quoted.inside? mark t = some (x, r)) (start : mark :: v ++ [mark] <+: mark :: t) :
      v = x := by
    obtain ⟨u, text⟩ := start
    rw [List.cons_append, List.cons_append, List.cons.injEq, List.append_assoc] at text
    rw [← text.2, List.singleton_append, inside?_of_mem quote inside] at read
    cases read
    rfl
  constructor
  · rintro ⟨rfl, mem, -⟩
    obtain ⟨t, inside, rfl⟩ := mem_quotedBy.mp mem
    refine ⟨t, t ++ mark :: r, by simp, inside?_of_mem quote inside r, rfl⟩
  · rintro ⟨t, u, rfl, read, rfl⟩
    obtain ⟨text, inside⟩ := of_inside? read
    refine ⟨by simp [text], mem_quotedBy.mpr ⟨t, inside, rfl⟩, ?_⟩
    intro v start given
    obtain ⟨x, other, rfl⟩ := mem_quotedBy.mp given
    rw [only other read start]

end Quotes

/-! ### Terminals of a grammar -/

section Terminals

variable {N T : Type} {g : Grammar N T} (tight : g.IsTight) {t : T} {cs r : List Char}
  {ts : List (Tree N T)}
include tight

theorem derives_exactly {w : List Char} (language : g.language t = exactly w) :
    g.Derives (.terminal t) cs ts r ↔ ts = [.leaf t w] ∧ skip cs = w ++ r := by
  rw [derives_terminal tight, language]
  simp only [lexeme_exactly]
  constructor
  · rintro ⟨s, rfl, rfl, text⟩
    exact ⟨rfl, text⟩
  · rintro ⟨rfl, text⟩
    exact ⟨w, rfl, rfl, text⟩

theorem Scans.derives_iff {scan : List Char → Option (List Char × List Char)}
    (scans : Scans scan (g.language t)) :
    g.Derives (.terminal t) cs ts r ↔ ∃ s, ts = [.leaf t s] ∧ scan (skip cs) = some (s, r) := by
  simp only [derives_terminal tight, scans.lexeme_iff]

end Terminals

end Concordance.Grammar
