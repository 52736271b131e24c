import Concordance.Text.Blank

/-! Empty texts, and texts that are not empty. -/

namespace Concordance.Text

theorem isEmpty_toList (s : String) : s.toList.isEmpty = s.isEmpty := by
  rw [Bool.eq_iff_iff]
  simp

theorem isEmpty_ofList (cs : List Char) : (String.ofList cs).isEmpty = cs.isEmpty := by
  rw [← isEmpty_toList, String.toList_ofList]

theorem isEmpty_eq_false {s : String} (h : s ≠ "") : s.isEmpty = false := by
  rw [← Bool.not_eq_true, String.isEmpty_iff]
  exact h

theorem nonEmpty?_some (s : String) :
    nonEmpty? (some s) = if s.isEmpty then none else some s := by
  cases empty : s.isEmpty <;> simp only [nonEmpty?, Option.filter, empty] <;> rfl

theorem nonEmpty?_of_ne {s : Option String} (h : s ≠ some "") : nonEmpty? s = s := by
  cases s with
  | none => rfl
  | some t =>
    rw [nonEmpty?_some, isEmpty_eq_false fun empty => h (congrArg some empty)]
    rfl

theorem eq_of_nonEmpty? {s t : Option String} (hs : s ≠ some "") (ht : t ≠ some "")
    (same : nonEmpty? s = nonEmpty? t) : s = t := by
  rwa [nonEmpty?_of_ne hs, nonEmpty?_of_ne ht] at same

theorem nonEmpty?_ne (s : Option String) : nonEmpty? s ≠ some "" := by
  cases s with
  | none => nofun
  | some t =>
    rw [nonEmpty?_some]
    split
    · nofun
    · next some_char =>
      intro same
      cases same
      exact some_char rfl

end Concordance.Text
