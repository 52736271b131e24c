import Concordance.Binary64.Printer
import Concordance.Proofs.Binary64.Rounding

/-! Decimal texts of a magnitude have its value, and read back as it. -/

namespace Concordance.Binary64

variable (negative : Bool) {c : Nat}

theorem ofDecimal_zero (e : Int) : ofDecimal negative 0 e = ofRatio negative 0 1 :=
  if_pos (.inl rfl)

theorem tiny_of_low {k : Nat} (low : c.log2 + 400 < k) : 2 * (c * perOne) < 10 ^ k := by
  calc 2 * (c * perOne)
    _ < 2 * (2 ^ (c.log2 + 1) * perOne) := by
      have bound := Nat.mul_lt_mul_of_pos_right (Nat.lt_log2_self (n := c)) perOne_pos
      omega
    _ = 2 ^ (c.log2 + 2 + depth) := by rw [two_pow_add_depth, Nat.pow_succ _ (c.log2 + 1)]; ring
    _ ≤ 2 ^ (3 * k) := Nat.pow_le_pow_right (by decide) (by unfold depth; omega)
    _ = 8 ^ k := Nat.pow_mul 2 3 k
    _ ≤ 10 ^ k := Nat.pow_le_pow_left (by decide) k

theorem huge_of_high (filled : c ≠ 0) (k : Nat) : 1 * 2 ^ (3 * k) ≤ c * 10 ^ k := by
  calc 1 * 2 ^ (3 * k)
    _ = 1 * 8 ^ k := by rw [Nat.pow_mul]
    _ ≤ 1 * 10 ^ k := Nat.mul_le_mul_left 1 (Nat.pow_le_pow_left (by decide) k)
    _ ≤ c * 10 ^ k := Nat.mul_le_mul_right _ (Nat.one_le_iff_ne_zero.mpr filled)

/-- The two bounds make no difference. -/
theorem ofDecimal_eq (filled : c ≠ 0) (e : Int) : ofDecimal negative c e =
    ofRatio negative (c * 10 ^ e.toNat) (10 ^ (-e).toNat) := by
  rw [ofDecimal]
  split
  · next either =>
    have low := either.resolve_left filled
    have small : e.toNat = 0 := by omega
    have tiny : 2 * (c * perOne) < 10 ^ (-e).toNat := tiny_of_low (by omega)
    rw [small, Nat.pow_zero, Nat.mul_one, ofRatio_tiny negative tiny]
  · split
    · next high =>
      have large : (-e).toNat = 0 := by omega
      rw [large, Nat.pow_zero]
      apply Eq.symm
      exact ofRatio_huge negative Nat.one_ne_zero (n := 3 * e.toNat) (by omega)
        (huge_of_high filled e.toNat)
    · split
      · next whole =>
        have large : (-e).toNat = 0 := by omega
        rw [large]
        rfl
      · next fraction =>
        have small : e.toNat = 0 := by omega
        rw [small, Nat.pow_zero, Nat.mul_one]
        rfl

theorem ofDecimal_mul_pow (c k : Nat) (e : Int) :
    ofDecimal negative (c * 10 ^ k) e = ofDecimal negative c (e + k) := by
  by_cases zero : c = 0
  · rw [zero, Nat.zero_mul, ofDecimal_zero, ofDecimal_zero]
  have ten (n : Nat) : 0 < 10 ^ n := Nat.pow_pos (by decide)
  rw [ofDecimal_eq negative (Nat.mul_ne_zero zero (Nat.ne_of_gt (ten k))),
    ofDecimal_eq negative zero]
  by_cases whole : 0 ≤ e
  · have low : (-e).toNat = 0 := by omega
    have low' : (-(e + k)).toNat = 0 := by omega
    have high : (e + k).toNat = k + e.toNat := by omega
    rw [low, low', high, Nat.pow_add, Nat.mul_assoc]
  by_cases crossed : 0 ≤ e + k
  · have high : e.toNat = 0 := by omega
    have low : (-(e + k)).toNat = 0 := by omega
    have split : k = (e + k).toNat + (-e).toNat := by omega
    rw [high, low, ← ofRatio_mul negative (c * 10 ^ (e + k).toNat) (Nat.ne_of_gt (ten 0))
      (ten (-e).toNat)]
    have powers : 10 ^ k = 10 ^ (e + k).toNat * 10 ^ (-e).toNat := by rw [← Nat.pow_add, ← split]
    rw [powers, Nat.pow_zero, Nat.mul_one, Nat.one_mul, Nat.mul_assoc]
  · have high : e.toNat = 0 := by omega
    have high' : (e + k).toNat = 0 := by omega
    have split : (-e).toNat = (-(e + k)).toNat + k := by omega
    rw [high, high', ← ofRatio_mul negative (c * 10 ^ 0) (Nat.ne_of_gt (ten _)) (ten k), split,
      Nat.pow_add, Nat.pow_zero, Nat.mul_one, Nat.mul_one]

theorem ofDecimal_exact {place : Nat} (positive : place ≠ 0) (bound : place < magnitudes) :
    ofDecimal negative (exact place).1 (exact place).2 = .finite negative ⟨place, bound⟩ := by
  obtain ⟨whole, -, below⟩ := shift_mantissa place
  have filled : mantissa place ≠ 0 := by
    intro none
    rcases below with first | large
    · rw [none, first] at whole
      exact positive (by omega)
    · omega
  have coefficient : (exact place).1 =
      mantissa place * 2 ^ (shift place - depth) * 5 ^ (depth - shift place) := rfl
  have unit : (exact place).2 = -((depth - shift place : Nat) : Int) := rfl
  rw [coefficient, unit, ofDecimal_eq negative
    (Nat.mul_ne_zero (Nat.mul_ne_zero filled (Nat.ne_of_gt (Nat.two_pow_pos _)))
      (Nat.ne_of_gt (Nat.pow_pos (by decide))))]
  generalize lacking : depth - shift place = k
  have high : (-(k : Int)).toNat = 0 := by omega
  have low : (- -(k : Int)).toNat = k := by omega
  rw [high, low]
  apply ofRatio_exact negative positive bound (Nat.ne_of_gt (Nat.pow_pos (by decide)))
  have exponents : shift place - depth + depth = k + shift place := by omega
  calc mantissa place * 2 ^ (shift place - depth) * 5 ^ k * 10 ^ 0 * perOne
    _ = mantissa place * 5 ^ k * 2 ^ (shift place - depth + depth) := by
      rw [two_pow_add_depth]
      ring
    _ = mantissa place * ((2 * 5) ^ k * 2 ^ shift place) := by
      rw [exponents, Nat.pow_add, Nat.mul_pow]
      ring
    _ = mantissa place * (10 ^ k * 2 ^ shift place) := rfl

theorem ofDecimal_shortest {place : Nat} (positive : place ≠ 0) (bound : place < magnitudes) :
    ofDecimal false (shortest place).1 (shortest place).2 = .finite false ⟨place, bound⟩ := by
  rw [shortest]
  dsimp only
  generalize (List.range 17).flatMap _ = candidates
  cases found : candidates.find? _ with
  | none => exact ofDecimal_exact false positive bound
  | some digits =>
    have reads := List.find?_some found
    rw [Option.getD_some]
    split at reads
    · next q same =>
      rw [same]
      exact congrArg _ (Fin.ext (beq_iff_eq.mp reads))
    · cases reads

theorem ofRatio_sign {num den : Nat} {p : Fin magnitudes}
    (read : ofRatio false num den = .finite false p) :
    ofRatio negative num den = .finite negative p := by
  rw [ofRatio] at read ⊢
  split at read
  · next zero =>
    cases read
    rw [if_pos zero]
  · next filled =>
    rw [if_neg filled, ofPlace]
    rw [ofPlace] at read
    split at read
    · next bound =>
      cases read
      rw [dif_pos bound]
    · cases read

theorem coefficient_ne_zero {place : Nat} (positive : place ≠ 0) (bound : place < magnitudes) :
    (shortest place).1 ≠ 0 := by
  intro zero
  have read := ofDecimal_shortest positive bound
  rw [zero, ofDecimal_zero, ofRatio, if_pos rfl] at read
  cases read
  exact positive rfl

theorem ofDecimal_shortest_sign {place : Nat} (positive : place ≠ 0) (bound : place < magnitudes) :
    ofDecimal negative (shortest place).1 (shortest place).2 = .finite negative ⟨place, bound⟩ := by
  have read := ofDecimal_shortest positive bound
  have filled := coefficient_ne_zero positive bound
  rw [ofDecimal_eq _ filled] at read ⊢
  exact ofRatio_sign negative read

end Concordance.Binary64
