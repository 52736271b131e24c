import Mathlib.Tactic.Ring
import Concordance.Binary64.Basic

/-! Rounding a quotient to the nearest magnitude depends on its value alone, and leaves magnitudes
as they are. -/

namespace Concordance.Binary64

theorem nearest_mul (num den : Nat) {k : Nat} (positive : 0 < k) :
    nearest (num * k) (den * k) = nearest num den := by
  have half (r : Nat) : 2 * (r * k) < den * k ↔ 2 * r < den := by
    rw [← Nat.mul_assoc, Nat.mul_lt_mul_right positive]
  have above (r : Nat) : den * k < 2 * (r * k) ↔ den < 2 * r := by
    rw [← Nat.mul_assoc, Nat.mul_lt_mul_right positive]
  simp only [nearest, Nat.mul_div_mul_right num den positive, Nat.mul_mod_mul_right, half, above]

theorem nearest_exact (m : Nat) {den : Nat} (positive : 0 < den) : nearest (m * den) den = m := by
  simp [nearest, Nat.mul_div_cancel m positive, positive]

/-- The least magnitude is two to the power `-depth`. -/
def depth : Nat := 1074

/-- How many times the least magnitude fits into one. -/
def perOne : Nat := 2 ^ depth

theorem perOne_pos : 0 < perOne := Nat.two_pow_pos depth

theorem two_pow_add_depth (n : Nat) : 2 ^ (n + depth) = 2 ^ n * perOne := Nat.pow_add 2 n depth

/-- A quotient is below `2 ^ 53` units of two to the power `up - depth`, and not below `2 ^ 52` of
them unless these are the least units. -/
structure Scales (num den up : Nat) : Prop where
  above : num * perOne < 2 ^ 53 * (den * 2 ^ up)
  below : up = 0 ∨ 2 ^ 52 * (den * 2 ^ up) ≤ num * perOne

variable {num den up : Nat}

theorem Scales.le (h : Scales num den up) {other : Nat} (h' : Scales num den other) :
    other ≤ up := by
  rcases h'.below with rfl | below
  · exact Nat.zero_le up
  by_contra larger
  obtain ⟨d, rfl⟩ := Nat.exists_eq_add_of_lt (Nat.lt_of_not_le larger)
  have units : 2 ^ 52 * (den * 2 ^ (up + d + 1)) = 2 ^ 53 * (den * 2 ^ up) * 2 ^ d := by ring
  have growing := Nat.le_mul_of_pos_right (2 ^ 53 * (den * 2 ^ up)) (Nat.two_pow_pos d)
  have above := h.above
  omega

theorem Scales.unique (h : Scales num den up) {other : Nat} (h' : Scales num den other) :
    up = other :=
  Nat.le_antisymm (h'.le h) (h.le h')

theorem Scales.mul (h : Scales num den up) {k : Nat} (positive : 0 < k) :
    Scales (num * k) (den * k) up where
  above := by
    have scaled := Nat.mul_lt_mul_of_pos_right h.above positive
    calc num * k * perOne = num * perOne * k := by ring
      _ < 2 ^ 53 * (den * 2 ^ up) * k := scaled
      _ = 2 ^ 53 * (den * k * 2 ^ up) := by ring
  below := by
    refine h.below.imp_right fun below => ?_
    have scaled := Nat.mul_le_mul_right k below
    calc 2 ^ 52 * (den * k * 2 ^ up) = 2 ^ 52 * (den * 2 ^ up) * k := by ring
      _ ≤ num * perOne * k := scaled
      _ = num * k * perOne := by ring

/-- A quotient in units of two to the power `up - depth`. -/
def scaled (num den up : Nat) : Nat × Nat :=
  if depth ≤ up then (num, den * Nat.pow 2 (up - depth)) else (num * Nat.pow 2 (depth - up), den)

theorem exists_scaled (num den up : Nat) : ∃ k, 0 < k ∧ (scaled num den up).1 * k = num * perOne ∧
    (scaled num den up).2 * k = den * 2 ^ up := by
  rw [scaled]
  split
  · next large =>
    obtain ⟨d, rfl⟩ := Nat.exists_eq_add_of_le' large
    refine ⟨perOne, perOne_pos, rfl, ?_⟩
    rw [Nat.add_sub_cancel, two_pow_add_depth, Nat.mul_assoc]
    rfl
  · next small =>
    obtain ⟨d, total⟩ := Nat.exists_eq_add_of_le' (Nat.le_of_not_le small)
    have whole : 2 ^ d * 2 ^ up = perOne := by
      rw [← Nat.pow_add, ← total, perOne]
    refine ⟨2 ^ up, Nat.two_pow_pos _, ?_, rfl⟩
    rw [total, Nat.add_sub_cancel, ← whole, ← Nat.mul_assoc]
    rfl

theorem scaled_lt (num den up : Nat) : (scaled num den up).1 < fractions * (scaled num den up).2 ↔
    num * perOne < 2 ^ 52 * (den * 2 ^ up) := by
  obtain ⟨k, positive, first, second⟩ := exists_scaled num den up
  rw [← first, ← second, ← Nat.mul_assoc, Nat.mul_lt_mul_right positive]
  rfl

theorem nearest_scaled (num den up : Nat) :
    nearest (scaled num den up).1 (scaled num den up).2 =
      nearest (num * perOne) (den * 2 ^ up) := by
  obtain ⟨k, positive, first, second⟩ := exists_scaled num den up
  rw [← first, ← second, nearest_mul _ _ positive]

theorem exists_scales (hn : num ≠ 0) (hd : den ≠ 0) : ∃ up, Scales num den up ∧
    placeOf num den = up * fractions + nearest (num * perOne) (den * 2 ^ up) := by
  have place : placeOf num den =
      let guess := num.log2 + 1022 - den.log2
      let up := if (scaled num den guess).1 < fractions * (scaled num den guess).2 then guess - 1
        else guess
      up * fractions + nearest (scaled num den up).1 (scaled num den up).2 := rfl
  have numHigh : num * perOne < 2 ^ (num.log2 + 1 + depth) := by
    rw [two_pow_add_depth]
    exact Nat.mul_lt_mul_of_pos_right Nat.lt_log2_self perOne_pos
  have numLow : 2 ^ (num.log2 + depth) ≤ num * perOne := by
    rw [two_pow_add_depth]
    exact Nat.mul_le_mul_right perOne (Nat.log2_self_le hn)
  have denLow (up : Nat) : 2 ^ (den.log2 + up) ≤ den * 2 ^ up := by
    rw [Nat.pow_add]
    exact Nat.mul_le_mul_right _ (Nat.log2_self_le hd)
  have denHigh (up : Nat) : den * 2 ^ up < 2 ^ (den.log2 + 1 + up) := by
    rw [Nat.pow_add]
    exact Nat.mul_lt_mul_of_pos_right Nat.lt_log2_self (Nat.two_pow_pos up)
  rw [place]
  dsimp only
  generalize guessed : num.log2 + 1022 - den.log2 = guess
  have above : num * perOne < 2 ^ 53 * (den * 2 ^ guess) := by
    calc num * perOne
      _ < 2 ^ (num.log2 + 1 + depth) := numHigh
      _ ≤ 2 ^ (53 + (den.log2 + guess)) := Nat.pow_le_pow_right (by decide) (by unfold depth; omega)
      _ = 2 ^ 53 * 2 ^ (den.log2 + guess) := Nat.pow_add ..
      _ ≤ 2 ^ 53 * (den * 2 ^ guess) := Nat.mul_le_mul_left _ (denLow guess)
  simp only [scaled_lt, nearest_scaled]
  split
  · next small =>
    refine ⟨guess - 1, ⟨?_, ?_⟩, rfl⟩
    · cases guess with
      | zero => exact above
      | succ g =>
        have units : 2 ^ 52 * (den * 2 ^ (g + 1)) = 2 ^ 53 * (den * 2 ^ g) := by ring
        rwa [units] at small
    · cases guess with
      | zero => exact .inl rfl
      | succ g =>
        refine .inr ?_
        calc 2 ^ 52 * (den * 2 ^ g)
          _ ≤ 2 ^ 52 * 2 ^ (den.log2 + 1 + g) := Nat.mul_le_mul_left _ (Nat.le_of_lt (denHigh g))
          _ = 2 ^ (52 + (den.log2 + 1 + g)) := (Nat.pow_add ..).symm
          _ = 2 ^ (num.log2 + depth) := congrArg _ (by unfold depth; omega)
          _ ≤ num * perOne := numLow
  · next large => exact ⟨guess, ⟨above, .inr (Nat.le_of_not_lt large)⟩, rfl⟩

theorem placeOf_eq (hn : num ≠ 0) (hd : den ≠ 0) (h : Scales num den up) :
    placeOf num den = up * fractions + nearest (num * perOne) (den * 2 ^ up) := by
  obtain ⟨other, scales, place⟩ := exists_scales hn hd
  rw [place, scales.unique h]

theorem placeOf_mul (hn : num ≠ 0) (hd : den ≠ 0) {k : Nat} (positive : 0 < k) :
    placeOf (num * k) (den * k) = placeOf num den := by
  have filled : k ≠ 0 := Nat.ne_of_gt positive
  obtain ⟨up, scales, place⟩ := exists_scales hn hd
  have numerator : num * k * perOne = num * perOne * k := by ring
  have denominator : den * k * 2 ^ up = den * 2 ^ up * k := by ring
  rw [placeOf_eq (Nat.mul_ne_zero hn filled) (Nat.mul_ne_zero hd filled) (scales.mul positive),
    place, numerator, denominator, nearest_mul _ _ positive]

theorem ofRatio_mul (negative : Bool) (num : Nat) {den : Nat} (hd : den ≠ 0) {k : Nat}
    (positive : 0 < k) : ofRatio negative (num * k) (den * k) = ofRatio negative num den := by
  by_cases zero : num = 0
  · rw [zero, Nat.zero_mul, ofRatio, ofRatio, if_pos rfl, if_pos rfl]
  · rw [ofRatio, ofRatio, if_neg zero, if_neg (Nat.mul_ne_zero zero (Nat.ne_of_gt positive)),
      placeOf_mul zero hd positive]

theorem ofRatio_tiny (negative : Bool) (tiny : 2 * (num * perOne) < den) :
    ofRatio negative num den = ofRatio negative 0 1 := by
  by_cases zero : num = 0
  · rw [zero, ofRatio, ofRatio, if_pos rfl, if_pos rfl]
  · have scales : Scales num den 0 := ⟨by omega, .inl rfl⟩
    have down : nearest (num * perOne) (den * 2 ^ 0) = 0 := by
      have small : num * perOne < den := by omega
      rw [Nat.pow_zero, Nat.mul_one, nearest]
      simp only [Nat.div_eq_of_lt small, Nat.mod_eq_of_lt small, tiny, if_true]
    have place : placeOf num den = 0 := by
      rw [placeOf_eq zero (Nat.ne_of_gt (Nat.zero_lt_of_lt tiny)) scales, down, Nat.zero_mul]
    rw [ofRatio, if_neg zero, place, ofRatio, if_pos rfl, ofPlace, dif_pos]

theorem ofRatio_huge (negative : Bool) (hd : den ≠ 0) {n : Nat} (large : 1026 ≤ n)
    (huge : den * 2 ^ n ≤ num) :
    ofRatio negative num den = .infinite negative := by
  have filled : num ≠ 0 := by
    rintro rfl
    have none := Nat.mul_eq_zero.mp (Nat.le_zero.mp huge)
    exact hd (none.resolve_right (Nat.ne_of_gt (Nat.two_pow_pos n)))
  obtain ⟨up, scales, place⟩ := exists_scales filled hd
  have high : 2047 ≤ up := by
    have powers : den * 2 ^ (n + depth) < den * 2 ^ (53 + up) := by
      calc den * 2 ^ (n + depth)
        _ = den * 2 ^ n * perOne := by rw [two_pow_add_depth, Nat.mul_assoc]
        _ ≤ num * perOne := Nat.mul_le_mul_right perOne huge
        _ < 2 ^ 53 * (den * 2 ^ up) := scales.above
        _ = den * 2 ^ (53 + up) := by rw [Nat.pow_add, Nat.mul_left_comm]
    have exponents := (Nat.pow_lt_pow_iff_right (by decide)).mp (Nat.lt_of_mul_lt_mul_left powers)
    unfold depth at exponents
    omega
  have beyond : magnitudes ≤ placeOf num den := by
    have units : 2047 * fractions ≤ up * fractions := Nat.mul_le_mul_right fractions high
    have whole : magnitudes = 2047 * fractions := rfl
    omega
  rw [ofRatio, if_neg filled, ofPlace, dif_neg (Nat.not_lt.mpr beyond)]

theorem shift_mantissa (place : Nat) : shift place * fractions + mantissa place = place ∧
    mantissa place < 2 ^ 53 ∧ (shift place = 0 ∨ 2 ^ 52 ≤ mantissa place) := by
  have unit : fractions = 4503599627370496 := rfl
  rw [shift, mantissa, unit]
  split <;> omega

theorem ofRatio_exact (negative : Bool) {place : Nat} (positive : place ≠ 0)
    (bound : place < magnitudes) (hd : den ≠ 0)
    (same : num * perOne = mantissa place * (den * 2 ^ shift place)) :
    ofRatio negative num den = .finite negative ⟨place, bound⟩ := by
  obtain ⟨whole, above, below⟩ := shift_mantissa place
  have units : 0 < den * 2 ^ shift place :=
    Nat.mul_pos (Nat.pos_of_ne_zero hd) (Nat.two_pow_pos _)
  have filled : num ≠ 0 := by
    rintro rfl
    rw [Nat.zero_mul, eq_comm, Nat.mul_eq_zero] at same
    have none : mantissa place = 0 := same.resolve_right (Nat.ne_of_gt units)
    rcases below with first | large
    · rw [none, first] at whole
      exact positive (by omega)
    · omega
  have scales : Scales num den (shift place) := by
    constructor
    · rw [same]
      exact Nat.mul_lt_mul_of_pos_right above units
    · rw [same]
      exact below.imp_right fun large => Nat.mul_le_mul_right _ large
  have found : placeOf num den = place := by
    rw [placeOf_eq filled hd scales, same, nearest_exact _ units, whole]
  rw [ofRatio, if_neg filled, found, ofPlace, dif_pos bound]

end Concordance.Binary64
