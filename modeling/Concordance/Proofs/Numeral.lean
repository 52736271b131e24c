import Mathlib.Algebra.Group.Nat.Defs
import Mathlib.Data.List.Induction
import Concordance.Numeral.Integer
import Concordance.Proofs.Text.Trim

/-! Integers in decimal read back. -/

namespace Concordance.Numeral

theorem isDigit_of_mem_decimal {n : Nat} {c : Char} (h : c ∈ decimal n) : c.isDigit :=
  Nat.isDigit_of_mem_toDigits (by decide) (by decide) h

theorem decimal_ne_nil (n : Nat) : decimal n ≠ [] := Nat.toDigits_ne_nil

theorem signed_ne_nil (i : Int) : signed i ≠ [] := by
  cases i with
  | ofNat n => exact decimal_ne_nil n
  | negSucc n => exact List.cons_ne_nil _ _

def values (cs : List Char) : List Nat := cs.map (·.toNat - 48)

theorem ofDigits_values (n : Nat) : ofDigits (values (decimal n)) = n := by
  calc ofDigits (values (decimal n)) = Nat.ofDigitChars 10 (Nat.toDigits 10 n) 0 := by
        rw [ofDigits, values, decimal, List.foldl_map, Nat.ofDigitChars_eq_foldl]
        rfl
    _ = n := Nat.ofDigitChars_ten_toDigits

theorem decimal_injective : Function.Injective decimal := by
  intro m n same
  rw [← ofDigits_values m, same, ofDigits_values]

theorem signed_injective : Function.Injective signed := by
  have digitsOnly (n : Nat) (cs : List Char) : decimal n ≠ '-' :: cs := by
    intro same
    have digit : '-'.isDigit := isDigit_of_mem_decimal (n := n) (same ▸ List.mem_cons_self)
    cases digit
  intro i j same
  cases i with
  | ofNat m =>
    cases j with
    | ofNat n => exact congrArg Int.ofNat (decimal_injective same)
    | negSucc n => exact absurd same (digitsOnly m _)
  | negSucc m =>
    cases j with
    | ofNat n => exact absurd same.symm (digitsOnly n _)
    | negSucc n =>
      have digits := decimal_injective (List.cons.inj same).2
      exact congrArg Int.negSucc (Nat.succ.inj digits)

theorem digit?_of_isDigit {c : Char} (h : c.isDigit) : digit? c = some (c.toNat - 48) := by
  simp [digit?, h]

theorem digit?_lt {c : Char} {d : Nat} (found : digit? c = some d) : d < 10 := by
  rw [digit?] at found
  split at found
  · next digit =>
    simp only [Char.isDigit, Bool.and_eq_true, decide_eq_true_eq, UInt32.le_iff_toNat_le] at digit
    have high : c.toNat ≤ 57 := digit.2
    have value := Option.some.inj found
    omega
  · split at found
    · cases found
    · obtain ⟨z, inside, rfl⟩ := Option.map_eq_some_iff.mp found
      have bounds := List.find?_some inside
      simp only [Bool.and_eq_true, decide_eq_true_eq] at bounds
      omega

theorem moreDigits_lt (cs : List Char) : ∀ d ∈ (moreDigits cs).1, d < 10 := by
  induction cs using moreDigits.induct with
  | case1 => nofun
  | case2 c r d digit _ _ _ ih =>
    rw [moreDigits, digit]
    exact List.forall_mem_cons.mpr ⟨digit?_lt digit, ih⟩
  | case3 c r noDigit =>
    rw [moreDigits, noDigit]
    nofun
  | case4 c r joint d digit _ _ _ ih =>
    rw [moreDigits, digit]
    · exact List.forall_mem_cons.mpr ⟨digit?_lt digit, ih⟩
    · exact joint
  | case5 c r joint noDigit =>
    rw [moreDigits, noDigit]
    · nofun
    · exact joint

theorem digits_lt (cs : List Char) : ∀ d ∈ (digits cs).1, d < 10 := by
  cases cs with
  | nil => nofun
  | cons c cs =>
    rw [digits]
    split
    · next d found => exact List.forall_mem_cons.mpr ⟨digit?_lt found, moreDigits_lt cs⟩
    · nofun

theorem moreDigits_of_isDigit {cs : List Char} (h : ∀ c ∈ cs, c.isDigit) :
    moreDigits cs = (values cs, []) := by
  induction cs with
  | nil => rfl
  | cons c cs ih =>
    have digit := h c List.mem_cons_self
    have rest := ih fun d member => h d (List.mem_cons_of_mem c member)
    rw [moreDigits]
    · simp [digit?_of_isDigit digit, rest, values]
    · intro d r same
      subst same
      exact absurd digit (by decide)

theorem digits_of_isDigit {cs : List Char} (h : ∀ c ∈ cs, c.isDigit) :
    digits cs = (values cs, []) := by
  cases cs with
  | nil => rfl
  | cons c cs =>
    have rest := moreDigits_of_isDigit fun d member => h d (List.mem_cons_of_mem c member)
    simp [digits, digit?_of_isDigit (h c List.mem_cons_self), rest, values]

theorem isPadding_of_isDigit {c : Char} (h : c.isDigit) : isPadding c = false := by
  simp only [Char.isDigit, Bool.and_eq_true, decide_eq_true_eq, UInt32.le_iff_toNat_le] at h
  have low : 48 ≤ c.toNat := h.1
  have high : c.toNat ≤ 57 := h.2
  simp only [isPadding, Bool.or_eq_false_iff, Bool.and_eq_false_iff, beq_eq_false_iff_ne,
    decide_eq_false_iff_not]
  omega

theorem solid_decimal (n : Nat) : Text.Solid isPadding (decimal n) := by
  constructor
  · intro c member
    exact isPadding_of_isDigit (isDigit_of_mem_decimal (List.mem_of_mem_head? member))
  · intro c member
    exact isPadding_of_isDigit (isDigit_of_mem_decimal (List.mem_of_mem_getLast? member))

theorem solid_signed (i : Int) : Text.Solid isPadding (signed i) := by
  cases i with
  | ofNat n => exact solid_decimal n
  | negSucc n => exact (Text.Solid.single rfl).append (solid_decimal (n + 1))

theorem sign_decimal (n : Nat) : sign (decimal n) = (false, decimal n) := by
  obtain ⟨c, cs, shape⟩ := List.exists_cons_of_ne_nil (decimal_ne_nil n)
  have digit : c.isDigit := isDigit_of_mem_decimal (n := n) (shape ▸ List.mem_cons_self)
  rw [shape, sign]
  all_goals
    intro r same
    cases same
    exact absurd digit (by decide)

theorem digits_decimal (n : Nat) : ∃ d ds, digits (decimal n) = (d :: ds, []) ∧
    ofDigits (d :: ds) = n ∧ ds.length + 1 = (decimal n).length := by
  have shape := digits_of_isDigit fun c => isDigit_of_mem_decimal (n := n) (c := c)
  have length : (values (decimal n)).length = (decimal n).length := List.length_map _
  have some_digit : values (decimal n) ≠ [] := by
    rw [← List.length_pos_iff, length, List.length_pos_iff]
    exact decimal_ne_nil n
  obtain ⟨d, ds, found⟩ := List.exists_cons_of_ne_nil some_digit
  rw [found] at shape length
  exact ⟨d, ds, shape, found ▸ ofDigits_values n, length⟩

theorem integer?_signed (i : Int) (short : (decimal i.natAbs).length ≤ maxDigits) :
    integer? (signed i) = some i := by
  rw [integer?, (solid_signed i).trimBy]
  cases i with
  | ofNat n =>
    obtain ⟨d, ds, shape, value, length⟩ := digits_decimal n
    have fits : ds.length + 1 ≤ maxDigits := length ▸ short
    simp [signed, sign_decimal, shape, value, fits]
  | negSucc n =>
    obtain ⟨d, ds, shape, value, length⟩ := digits_decimal (n + 1)
    have fits : ds.length + 1 ≤ maxDigits := length ▸ short
    simp [signed, sign, shape, value, fits, Int.negSucc_eq]

theorem length_decimal_mul {a b j k : Nat} (small : a < 10 ^ j) (some_digit : 0 < k)
    (short : (decimal b).length ≤ k) : (decimal (a * b)).length ≤ j + k := by
  have bound : b < 10 ^ k := (Nat.length_toDigits_le_iff (by decide) some_digit).mp short
  apply (Nat.length_toDigits_le_iff (by decide) (by omega)).mpr
  rw [Nat.pow_add]
  exact Nat.mul_lt_mul'' small bound

theorem ofDigits_lt_of_lt {ds : List Nat} (small : ∀ d ∈ ds, d < 10) :
    ofDigits ds < 10 ^ ds.length := by
  induction ds using List.reverseRecOn with
  | nil => decide
  | append_singleton ds d ih =>
    have before := ih fun e member => small e (List.mem_append_left _ member)
    have digit : d < 10 := small d (by simp)
    have step : ofDigits (ds ++ [d]) = 10 * ofDigits ds + d := by
      simp [ofDigits]
    rw [step, List.length_append, List.length_singleton, Nat.pow_succ]
    omega

theorem ofDigits_lt {cs : List Char} (digits : ∀ c ∈ cs, c.isDigit) :
    ofDigits (values cs) < 10 ^ cs.length := by
  have small : ∀ d ∈ values cs, d < 10 := by
    intro d member
    obtain ⟨c, inside, rfl⟩ := List.mem_map.mp member
    exact digit?_lt (digit?_of_isDigit (digits c inside))
  have bound := ofDigits_lt_of_lt small
  rwa [values, List.length_map] at bound

theorem length_decimal_ofDigits {cs : List Char} (digits : ∀ c ∈ cs, c.isDigit) {k : Nat}
    (some_digit : 0 < k) (short : cs.length ≤ k) :
    (decimal (ofDigits (values cs))).length ≤ k := by
  apply (Nat.length_toDigits_le_iff (by decide) some_digit).mpr
  exact Nat.lt_of_lt_of_le (ofDigits_lt digits) (Nat.pow_le_pow_right (by decide) short)

/-! ### Digits in longer texts -/

def Stops (cs : List Char) : Prop := ∀ c ∈ cs.head?, digit? c = none ∧ c ≠ '_'

theorem Stops.nil : Stops [] := nofun

theorem Stops.cons {c : Char} (cs : List Char) (noDigit : digit? c = none) (joint : c ≠ '_') :
    Stops (c :: cs) := by
  intro d member
  cases member
  exact ⟨noDigit, joint⟩

theorem moreDigits_append {cs rest : List Char} (h : ∀ c ∈ cs, c.isDigit) (stops : Stops rest) :
    moreDigits (cs ++ rest) = (values cs, rest) := by
  induction cs with
  | nil =>
    cases rest with
    | nil => rfl
    | cons c rest =>
      obtain ⟨noDigit, joint⟩ := stops c rfl
      rw [List.nil_append, moreDigits, noDigit]
      · rfl
      · intro d r same
        exact absurd same joint
  | cons c cs ih =>
    have digit := h c List.mem_cons_self
    have later := ih fun d member => h d (List.mem_cons_of_mem c member)
    rw [List.cons_append, moreDigits, digit?_of_isDigit digit, later]
    · rfl
    · intro d r same
      subst same
      exact absurd digit (by decide)

theorem digits_append {cs rest : List Char} (h : ∀ c ∈ cs, c.isDigit) (stops : Stops rest) :
    digits (cs ++ rest) = (values cs, rest) := by
  cases cs with
  | nil =>
    cases rest with
    | nil => rfl
    | cons c rest =>
      rw [List.nil_append, digits, (stops c rfl).1]
      rfl
  | cons c cs =>
    have later := moreDigits_append (fun d member => h d (List.mem_cons_of_mem c member)) stops
    rw [List.cons_append, digits, digit?_of_isDigit (h c List.mem_cons_self), later]
    rfl

theorem ofDigits_append (ds es : List Nat) :
    ofDigits (ds ++ es) = ofDigits ds * 10 ^ es.length + ofDigits es := by
  induction es using List.reverseRecOn with
  | nil => simp [ofDigits]
  | append_singleton es e ih =>
    have last (xs : List Nat) : ofDigits (xs ++ [e]) = 10 * ofDigits xs + e := by
      simp [ofDigits, List.foldl_append]
    rw [← List.append_assoc, last, last, ih, List.length_append, List.length_singleton,
      Nat.pow_succ, Nat.mul_add, Nat.mul_left_comm, Nat.mul_comm 10 (10 ^ _), Nat.add_assoc]

theorem ofDigits_zeros (n : Nat) : ofDigits (List.replicate n 0) = 0 := by
  induction n with
  | zero => rfl
  | succ n ih =>
    have zero : ofDigits [0] = 0 := rfl
    rw [List.replicate_succ, ← List.singleton_append, ofDigits_append, ih, zero, Nat.zero_mul]

theorem values_append (cs ds : List Char) : values (cs ++ ds) = values cs ++ values ds :=
  List.map_append

theorem values_zeros (n : Nat) : values (List.replicate n '0') = List.replicate n 0 := by
  rw [values, List.map_replicate]
  rfl

theorem length_values (cs : List Char) : (values cs).length = cs.length := List.length_map _

theorem ofDigits_leading (n : Nat) (ds : List Nat) :
    ofDigits (List.replicate n 0 ++ ds) = ofDigits ds := by
  rw [ofDigits_append, ofDigits_zeros, Nat.zero_mul, Nat.zero_add]

theorem ofDigits_trailing (ds : List Nat) (n : Nat) :
    ofDigits (ds ++ List.replicate n 0) = ofDigits ds * 10 ^ n := by
  rw [ofDigits_append, ofDigits_zeros, List.length_replicate, Nat.add_zero]

end Concordance.Numeral
