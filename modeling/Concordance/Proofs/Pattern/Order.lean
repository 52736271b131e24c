import Concordance.Proofs.Pattern.Decoded

/-! Which columns are gathered from a pattern, and in which order: an annotation comes before those
that are constrained later, and before those that stand behind it in the same token. -/

namespace Concordance

namespace Pattern

variable {corpus : Corpus} {i : Nat} {cols cols' : Columns}

theorem of_gather_attribute {a : Attribute} (declared : corpus.declares a.name)
    (run : gather corpus i (.attribute a) cols = .ok cols') :
    a.operator = "=" ∧ ((cols.get? a.name).getD []).length ≤ i ∧
      cols' = cols.insert a.name (placed cols i a) := by
  rw [gather, declared] at run
  simp only [Bool.not_true, Bool.false_eq_true, if_false] at run
  split at run
  · cases run
  · next equal =>
    split at run
    · cases run
    · next short => exact ⟨not_not.mp equal, Nat.not_lt.mp short, (Except.ok.inj run).symm⟩

/-- Annotations with their columns, in the order of their first constraints. -/
structure Ordered (full : String → List (Option String)) (names : List String) : Prop where
  sorted : names.Pairwise fun a b => start (full a) ≤ start (full b)
  constrained : ∀ name ∈ names, settled (full name) ≠ []

variable {full : String → List (Option String)} {names : List String}

def begun (full : String → List (Option String)) (names : List String) (i : Nat) : List String :=
  names.filter fun name => start (full name) < i

end Pattern

end Concordance
