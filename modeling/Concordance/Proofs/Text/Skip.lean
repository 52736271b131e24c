import Concordance.Text.Blank
import Concordance.Text.Name

/-! Blanks before a word of the language are passed over, and a name is read up to its end. -/

namespace Concordance.Text

@[simp] theorem skip_nil : skip [] = [] := rfl

theorem skip_cons_of_spacing {c : Char} (cs : List Char) (h : isSpacing c) :
    skip (c :: cs) = skip cs := by
  simp [skip, h]

theorem skip_cons {c : Char} (cs : List Char) (h : isSpacing c = false) :
    skip (c :: cs) = c :: cs := by
  simp [skip, h]

@[simp] theorem skip_space (cs : List Char) : skip (' ' :: cs) = skip cs :=
  skip_cons_of_spacing cs rfl

theorem skip_append_of_head {cs : List Char} (rest : List Char) {c : Char}
    (head : cs.head? = some c) (h : isSpacing c = false) : skip (cs ++ rest) = cs ++ rest := by
  obtain ⟨tail, rfl⟩ := List.head?_eq_some_iff.mp head
  exact skip_cons _ h

@[simp] theorem skip_skip (cs : List Char) : skip (skip cs) = skip cs := by
  induction cs with
  | nil => rfl
  | cons c cs ih =>
    cases h : isSpacing c with
    | true => rw [skip_cons_of_spacing cs h, ih]
    | false => rw [skip_cons cs h, skip_cons cs h]

theorem length_skip_le (cs : List Char) : (skip cs).length ≤ cs.length :=
  (List.dropWhile_suffix _).length_le

theorem skip_suffix {cs r : List Char} (h : r <:+ cs) : skip r <:+ skip cs := by
  obtain ⟨taken, rfl⟩ := h
  induction taken with
  | nil => exact List.suffix_refl _
  | cons c taken ih =>
    cases blank : isSpacing c with
    | true =>
      rw [List.cons_append, skip_cons_of_spacing _ blank]
      exact ih
    | false =>
      rw [List.cons_append, skip_cons _ blank]
      exact (List.dropWhile_suffix _).trans (List.suffix_append (c :: taken) r)

theorem takeWhile_dropWhile_append {p : Char → Bool} (cs rest : List Char) (all : ∀ c ∈ cs, p c)
    (stop : ∀ c ∈ rest.head?, p c = false) :
    (cs ++ rest).takeWhile p = cs ∧ (cs ++ rest).dropWhile p = rest := by
  have stopped : rest.takeWhile p = [] ∧ rest.dropWhile p = rest := by
    cases rest with
    | nil => exact ⟨rfl, rfl⟩
    | cons d ds => simp [stop d rfl]
  rw [List.takeWhile_append_of_pos all, List.dropWhile_append_of_pos all, stopped.1, stopped.2]
  exact ⟨List.append_nil cs, rfl⟩

def isName (more : Char → Bool) : List Char → Bool
  | [] => false
  | c :: cs => isNameStart c && cs.all more

theorem name?_append {more : Char → Bool} {name : List Char} (shape : isName more name)
    (rest : List Char) (stop : ∀ c ∈ rest.head?, more c = false) :
    name? more (name ++ rest) = some (name, rest) := by
  cases name with
  | nil => simp [isName] at shape
  | cons c cs =>
    simp only [isName, Bool.and_eq_true] at shape
    have split := takeWhile_dropWhile_append cs rest (List.all_eq_true.mp shape.2) stop
    simp [name?, shape.1, split.1, split.2]

theorem isName_head {more : Char → Bool} {name : List Char} (shape : isName more name) :
    ∃ c cs, name = c :: cs ∧ isNameStart c := by
  cases name with
  | nil => simp [isName] at shape
  | cons c cs =>
    simp only [isName, Bool.and_eq_true] at shape
    exact ⟨c, cs, rfl, shape.1⟩

theorem isSpacing_of_isNameStart {c : Char} (h : isNameStart c) : isSpacing c = false := by
  cases hs : isSpacing c with
  | false => rfl
  | true =>
    simp only [isSpacing, Bool.or_eq_true, beq_iff_eq] at hs
    rcases hs with (((rfl | rfl) | rfl) | rfl) | rfl <;> exact absurd h (by decide)

theorem isNameChar_of_isNameStart {c : Char} (h : isNameStart c) : isNameChar c := by
  rw [isNameStart, Bool.or_eq_true] at h
  rw [isNameChar, Char.isAlphanum, Bool.or_eq_true, Bool.or_eq_true, Bool.or_eq_true]
  rcases h with letter | underscore
  · exact .inl (.inl (.inl letter))
  · exact .inl (.inr underscore)

theorem isNameChar_of_mem {name : List Char} (shape : isName isNameChar name) :
    ∀ c ∈ name, isNameChar c := by
  obtain ⟨c, cs, rfl, start⟩ := isName_head shape
  rw [isName, Bool.and_eq_true, List.all_eq_true] at shape
  exact List.forall_mem_cons.mpr ⟨isNameChar_of_isNameStart start, shape.2⟩

theorem bounds_of_isAlphanum {c : Char} (h : c.isAlphanum) :
    (65 ≤ c.toNat ∧ c.toNat ≤ 90 ∨ 97 ≤ c.toNat ∧ c.toNat ≤ 122) ∨
      48 ≤ c.toNat ∧ c.toNat ≤ 57 := by
  have tests : (decide (65 ≤ c.val ∧ c.val ≤ 90) ||
      (decide (97 ≤ c.val) && decide (c.val ≤ 122)) ||
      (decide (48 ≤ c.val) && decide (c.val ≤ 57))) = true := h
  simp only [Bool.or_eq_true, Bool.and_eq_true, decide_eq_true_eq, UInt32.le_iff_toNat_le] at tests
  exact tests

theorem isBlank_of_isNameChar {c : Char} (h : isNameChar c) : isBlank c = false := by
  rw [← Bool.not_eq_true]
  intro blank
  rw [isNameChar, Bool.or_eq_true, Bool.or_eq_true, beq_iff_eq, beq_iff_eq] at h
  rcases h with (letter | rfl) | rfl
  · have bounds := bounds_of_isAlphanum letter
    simp only [isBlank, Bool.or_eq_true, Bool.and_eq_true, decide_eq_true_eq, beq_iff_eq] at blank
    omega
  · exact absurd blank (by decide)
  · exact absurd blank (by decide)

end Concordance.Text
