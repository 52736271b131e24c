import Concordance.Proofs.Except
import Concordance.Toml.Display
import Concordance.Toml.Reader

/-! Values that are nested too deeply: which of them cannot be shown as running text, and texts that
cannot be read however much room there is. -/

namespace Concordance.Toml

/-! ### Values -/

mutual

/-- How many values stand at most one within another, the innermost and the outermost included. -/
def levels : Toml → Nat
  | .arr items => levelsIn items + 1
  | .table entries => levelsAmong entries + 1
  | _ => 1

def levelsIn : List Toml → Nat
  | [] => 0
  | v :: vs => max (levels v) (levelsIn vs)

def levelsAmong : List (String × Toml) → Nat
  | [] => 0
  | (_, v) :: es => max (levels v) (levelsAmong es)

end

mutual

def HasShortIntegers : Toml → Prop
  | .int i => (Numeral.decimal i.natAbs).length ≤ Numeral.maxDigits
  | .arr items => HaveShortIntegers items
  | .table entries => HoldShortIntegers entries
  | _ => True

def HaveShortIntegers : List Toml → Prop
  | [] => True
  | v :: vs => HasShortIntegers v ∧ HaveShortIntegers vs

def HoldShortIntegers : List (String × Toml) → Prop
  | [] => True
  | (_, v) :: es => HasShortIntegers v ∧ HoldShortIntegers es

end

theorem levels_pos (v : Toml) : 0 < v.levels := by
  cases v <;> exact Nat.succ_pos _

mutual

theorem obstacle?_eq_none_iff : (depth : Nat) → (v : Toml) →
    (v.obstacle? depth = none ↔ v.levels ≤ depth ∧ v.HasShortIntegers)
  | 0, v => by
    rw [obstacle?]
    exact iff_of_false nofun fun shown => absurd v.levels_pos (Nat.not_lt.mpr shown.1)
  | depth + 1, .int i => by
    simp [obstacle?, HasShortIntegers, levels]
  | depth + 1, .arr items => by
    rw [obstacle?, HasShortIntegers, levels, Nat.add_le_add_iff_right]
    exact obstacleIn?_eq_none_iff depth items
  | depth + 1, .table entries => by
    rw [obstacle?, HasShortIntegers, levels, Nat.add_le_add_iff_right]
    exact obstacleAmong?_eq_none_iff depth entries
  | depth + 1, .str _ | depth + 1, .float _ | depth + 1, .bool _ | depth + 1, .date _
  | depth + 1, .time _ | depth + 1, .moment _ =>
    iff_of_true rfl ⟨Nat.succ_le_succ (Nat.zero_le depth), trivial⟩

theorem obstacleIn?_eq_none_iff (depth : Nat) : (vs : List Toml) →
    (obstacleIn? depth vs = none ↔ levelsIn vs ≤ depth ∧ HaveShortIntegers vs)
  | [] => iff_of_true rfl ⟨Nat.zero_le depth, trivial⟩
  | v :: vs => by
    rw [obstacleIn?, HaveShortIntegers, levelsIn, Option.or_eq_none_iff,
      obstacle?_eq_none_iff depth v, obstacleIn?_eq_none_iff depth vs, Nat.max_le]
    exact and_and_and_comm

theorem obstacleAmong?_eq_none_iff (depth : Nat) : (es : Entries) →
    (obstacleAmong? depth es = none ↔ levelsAmong es ≤ depth ∧ HoldShortIntegers es)
  | [] => iff_of_true rfl ⟨Nat.zero_le depth, trivial⟩
  | (_, v) :: es => by
    rw [obstacleAmong?, HoldShortIntegers, levelsAmong, Option.or_eq_none_iff,
      obstacle?_eq_none_iff depth v, obstacleAmong?_eq_none_iff depth es,
      Nat.max_le]
    exact and_and_and_comm

end

/-- A value can be shown as running text: its integers are short, and none of the values in it has
more than `depth` others around it. -/
def IsShowable (depth : Nat) (v : Toml) : Prop := v.levels ≤ depth + 1 ∧ v.HasShortIntegers

theorem isShowable_iff {depth : Nat} {v : Toml} :
    v.IsShowable depth ↔ v.obstacle? (depth + 1) = none :=
  (obstacle?_eq_none_iff (depth + 1) v).symm

/-! ### Texts -/

namespace Reader

theorem gap?_bracket (cs : List Char) : gap? ('[' :: cs) = some ('[' :: cs) := rfl

theorem value_opened {n calls count : Nat} (few : calls < 2 * count) (steps : calls < n) :
    value n calls (List.replicate count '[') = .error .tooDeep := by
  induction count generalizing n calls with
  | zero => exact absurd few (Nat.not_lt_zero _)
  | succ count ih =>
    obtain ⟨n, rfl⟩ := Nat.exists_eq_succ_of_ne_zero (Nat.ne_zero_of_lt steps)
    rw [List.replicate_succ, value]
    split
    · rfl
    · next room =>
      obtain ⟨count, rfl⟩ := Nat.exists_eq_succ_of_ne_zero (n := count) (by omega)
      obtain ⟨n, rfl⟩ := Nat.exists_eq_succ_of_ne_zero (n := n) (by omega)
      have inner : value n (calls - 2) (List.replicate (count + 1) '[') = .error .tooDeep :=
        ih (by omega) (by omega)
      have listed : items (n + 1) (calls - 2) (List.replicate (count + 1) '[') =
          .error .tooDeep := by
        rw [items, inner]
        rfl
      rw [List.replicate_succ] at listed ⊢
      rw [gap?_bracket, ofOption, Option.elim_some, ok_bind]
      change Except.map _ (items (n + 1) (calls - 2) ('[' :: _)) = _
      rw [listed]
      rfl

theorem lines_opened (count : Nat) :
    lines (List.replicate count '[') = List.replicate count '[' := by
  induction count with
  | zero => rfl
  | succ count ih =>
    rw [List.replicate_succ]
    exact congrArg ('[' :: ·) ih

/-- A statement whose value is a list in lists, one for each call and one more. -/
theorem statement_opened (calls : Nat) (d : Draft) :
    statement calls d ('x' :: '=' :: List.replicate (calls + 1) '[') = .error .tooDeep := by
  have path : path? ('x' :: '=' :: List.replicate (calls + 1) '[') =
      some (["x"], '=' :: List.replicate (calls + 1) '[') := rfl
  have sign : ['='].isPrefixOf? ('=' :: List.replicate (calls + 1) '[') =
      some (List.replicate (calls + 1) '[') := rfl
  have solid : skip (List.replicate (calls + 1) '[') = List.replicate (calls + 1) '[' := rfl
  rw [statement, path, ofOption, Option.elim_some, ok_bind]
  · dsimp only
    rw [sign, ofOption, Option.elim_some, ok_bind, solid, value_opened (by omega) (by simp; omega)]
    rfl
  all_goals nofun

end Reader

def opened (count : Nat) : String := String.ofList ('x' :: '=' :: List.replicate count '[')

/-- However much room there is, some text needs more. -/
theorem read_opened (calls : Nat) : read calls (opened (calls + 1)) = .error .tooDeep := by
  have text : Reader.lines ('x' :: '=' :: List.replicate (calls + 1) '[') =
      'x' :: '=' :: List.replicate (calls + 1) '[' :=
    congrArg (fun cs => 'x' :: '=' :: cs) (Reader.lines_opened _)
  have first : Reader.skip ('x' :: '=' :: List.replicate (calls + 1) '[') =
      'x' :: '=' :: List.replicate (calls + 1) '[' := rfl
  rw [read, opened, String.toList_ofList, text, Reader.statements, first]
  change Except.map _ (Reader.statement calls .empty ('x' :: '=' :: _) >>= _) = _
  rw [Reader.statement_opened]
  rfl

end Concordance.Toml
