import Concordance.Link.Decode
import Concordance.Proofs.Binary64.Text
import Concordance.Proofs.Link.RoundTrip

/-! Numbers in an address: what is written of a sample size is read as the same size. -/

namespace Concordance

namespace Binary64

def multiple (place : Nat) : Nat := mantissa place * 2 ^ shift place

theorem multiple_mono {p q : Nat} (le : p ≤ q) : multiple p ≤ multiple q := by
  obtain ⟨whole, above, -⟩ := shift_mantissa p
  obtain ⟨whole', -, below⟩ := shift_mantissa q
  have shifts : shift p ≤ shift q := Nat.sub_le_sub_right (Nat.div_le_div_right le) 1
  rcases Nat.eq_or_lt_of_le shifts with same | further
  · have mantissas : mantissa p ≤ mantissa q := by
      rw [same] at whole
      omega
    rw [multiple, multiple, same]
    exact Nat.mul_le_mul_right _ mantissas
  · have large : 2 ^ 52 ≤ mantissa q := below.resolve_left (by omega)
    calc mantissa p * 2 ^ shift p
      _ ≤ 2 ^ 53 * 2 ^ shift p := Nat.mul_le_mul_right _ (Nat.le_of_lt above)
      _ = 2 ^ 52 * 2 ^ (shift p + 1) := by ring
      _ ≤ 2 ^ 52 * 2 ^ shift q := Nat.mul_le_mul_left _ (Nat.pow_le_pow_right (by decide) further)
      _ ≤ mantissa q * 2 ^ shift q := Nat.mul_le_mul_right _ large

theorem ratio_eq (place : Nat) : 0 < (ratio place).2 ∧
    (ratio place).1 * perOne = multiple place * (ratio place).2 := by
  have cases : ratio place = if depth ≤ shift place then
      (mantissa place * 2 ^ (shift place - depth), 1)
    else (mantissa place, 2 ^ (depth - shift place)) := rfl
  rw [cases]
  split
  · next large =>
    refine ⟨Nat.one_pos, ?_⟩
    rw [Nat.mul_assoc, ← two_pow_add_depth, Nat.sub_add_cancel large, Nat.mul_one, multiple]
  · next small =>
    refine ⟨Nat.two_pow_pos _, ?_⟩
    have whole : perOne = 2 ^ shift place * 2 ^ (depth - shift place) := by
      rw [← Nat.pow_add, Nat.add_sub_cancel' (Nat.le_of_not_le small), perOne]
    rw [whole, multiple, Nat.mul_assoc]

theorem div_ratio_mono {p q : Nat} (le : p ≤ q) :
    (ratio p).1 / (ratio p).2 ≤ (ratio q).1 / (ratio q).2 := by
  obtain ⟨positive, same⟩ := ratio_eq p
  obtain ⟨positive', same'⟩ := ratio_eq q
  rw [Nat.le_div_iff_mul_le positive']
  have part : (ratio p).1 / (ratio p).2 * (ratio p).2 ≤ (ratio p).1 := Nat.div_mul_le_self _ _
  apply Nat.le_of_mul_le_mul_right _ (Nat.mul_pos positive perOne_pos)
  calc (ratio p).1 / (ratio p).2 * (ratio q).2 * ((ratio p).2 * perOne)
    _ = (ratio p).1 / (ratio p).2 * (ratio p).2 * perOne * (ratio q).2 := by ring
    _ ≤ (ratio p).1 * perOne * (ratio q).2 :=
      Nat.mul_le_mul_right _ (Nat.mul_le_mul_right _ part)
    _ = multiple p * (ratio p).2 * (ratio q).2 := by rw [same]
    _ ≤ multiple q * (ratio p).2 * (ratio q).2 :=
      Nat.mul_le_mul_right _ (Nat.mul_le_mul_right _ (multiple_mono le))
    _ = (ratio q).1 * perOne * (ratio p).2 := by rw [same']; ring
    _ = (ratio q).1 * ((ratio p).2 * perOne) := by ring

def hundred : Fin magnitudes := ⟨4636737291354636288, by decide⟩

theorem ofInt?_hundred : ofInt? 100 = some (.finite false hundred) := by decide +kernel

theorem ofInt?_zero : ofInt? 0 = some (.finite false ⟨0, by decide⟩) := by decide +kernel

theorem div_ratio_hundred : (ratio hundred).1 / (ratio hundred).2 = 100 := by decide +kernel

end Binary64

namespace Number

/-- A number as it is read from an address: what is integral is an integer. -/
def linked (n : Number) : Number :=
  match n.integer? with
  | some i => int i
  | none => n

variable {x : Binary64}

theorem exists_place (range : (float x).between 0 100) : ∃ negative place,
    x = .finite negative place ∧ place.val ≤ Binary64.hundred.val ∧
      (negative = true → place.val = 0) := by
  rw [between, Binary64.ofInt?_zero, Binary64.ofInt?_hundred] at range
  simp only [Bool.and_eq_true] at range
  obtain ⟨low, high⟩ := range
  cases x with
  | nan => cases low
  | infinite negative =>
    cases negative with
    | true => exact absurd low (by decide)
    | false => exact absurd high (by decide)
  | finite negative place =>
    have below := of_decide_eq_true high
    have above := of_decide_eq_true low
    refine ⟨negative, place, rfl, ?_, ?_⟩
    · cases negative with
      | false => exact Int.ofNat_le.mp below
      | true => simp at above; omega
    · rintro rfl
      simpa using above

inductive Linked (n : Number) : Prop
  | whole (i : Int) (low : 0 ≤ i) (high : i ≤ 100) (linked : n.linked = int i)
      (text : Link.numberText? n = some (Numeral.signed i)) : Linked n
  | fraction (negative : Bool) (place : Fin Binary64.magnitudes) (positive : place.val ≠ 0)
      (linked : n.linked = n) (text : Link.numberText? n =
        some (Binary64.render .plain (.finite negative place)))
      (same : n = float (.finite negative place)) : Linked n

theorem linked_of_between {n : Number} (range : n.between 0 100) : Linked n := by
  cases n with
  | int i =>
    obtain ⟨low, high⟩ : 0 ≤ i ∧ i ≤ 100 := by simpa [between] using range
    have written := Link.isWritten_of_small low (by omega)
    exact .whole i low high rfl (if_pos (of_decide_eq_true written))
  | float x =>
    obtain ⟨negative, place, rfl, least, zero⟩ := exists_place range
    cases integral : (Binary64.finite negative place).isIntegral with
    | true =>
      have most := Binary64.div_ratio_mono least
      rw [Binary64.div_ratio_hundred] at most
      have bounds : ∃ i, (Binary64.finite negative place).truncate? = some i ∧ 0 ≤ i ∧ i ≤ 100 := by
        refine ⟨_, rfl, ?_⟩
        cases negative with
        | false => exact ⟨Int.natCast_nonneg _, Int.ofNat_le.mpr most⟩
        | true =>
          rw [zero rfl]
          decide +kernel
      obtain ⟨i, found, low, high⟩ := bounds
      refine .whole i low high ?_ ?_
      · rw [linked, integer?, integral, if_pos rfl, found]
      · rw [Link.numberText?, integral, if_pos rfl, found, Option.map_some]
    | false =>
      have positive : place.val ≠ 0 := by
        intro same
        rw [Binary64.isIntegral, same] at integral
        exact absurd integral (by decide +kernel)
      refine .fraction negative place positive ?_ ?_ rfl
      · rw [linked, integer?, integral]
        rfl
      · rw [Link.numberText?, integral]
        rfl

theorem read?_text {n : Number} (range : n.between 0 100) :
    ∃ text, Link.numberText? n = some text ∧ read? text = some n.linked := by
  cases linked_of_between range with
  | whole i low high linked text =>
    have written := Link.isWritten_of_small low (by omega)
    refine ⟨_, text, ?_⟩
    rw [linked, read?, Numeral.integer?_signed i (of_decide_eq_true written)]
  | fraction negative place positive linked text same =>
    refine ⟨_, text, ?_⟩
    rw [linked, same]
    exact Binary64.read?_render negative positive

theorem between_linked {n : Number} (range : n.between 0 100) : n.linked.between 0 100 := by
  cases linked_of_between range with
  | whole i low high linked text =>
    rw [linked]
    simpa [between] using ⟨low, high⟩
  | fraction negative place positive linked text same => rwa [linked]

end Number

end Concordance
