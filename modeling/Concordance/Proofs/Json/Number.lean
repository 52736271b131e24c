import Mathlib.Data.List.Basic
import Mathlib.Data.List.TakeDrop
import Concordance.Json.Printer
import Concordance.Json.Reader
import Concordance.Proofs.Binary64.Text
import Concordance.Proofs.Text.Skip

/-! Numbers of the data exchange format: integers that are not too long and all floating point
numbers read back from their texts, up to the first character that is no part of a number. -/

namespace Concordance

namespace Numeral

def IsShort (i : Int) : Prop := (decimal i.natAbs).length ≤ maxDigits

theorem head_decimal {n : Nat} (positive : n ≠ 0) : (decimal n).head? ≠ some '0' := by
  intro zero
  obtain ⟨cs, shape⟩ := List.head?_eq_some_iff.mp zero
  have digits : ∀ c ∈ cs, c.isDigit := fun c member =>
    isDigit_of_mem_decimal (n := n) (shape ▸ List.mem_cons_of_mem _ member)
  have value : n = ofDigits (values cs) := by
    rw [← ofDigits_values n, shape]
    exact ofDigits_leading 1 (values cs)
  cases cs with
  | nil => exact positive value
  | cons c cs =>
    have short := length_decimal_ofDigits digits (Nat.succ_pos _) (Nat.le_refl _)
    rw [← value, shape] at short
    exact absurd short (Nat.not_succ_le_self _)

end Numeral

namespace Json.Reader

open Numeral

def Halts (rest : List Char) : Prop :=
  ∀ c ∈ rest.head?, c.isDigit = false ∧ c ≠ '.' ∧ c ≠ 'e' ∧ c ≠ 'E'

structure Decimal where
  whole : List Char
  fraction : Option (List Char)
  power : Option (Bool × List Char)

namespace Decimal

def powerText : Option (Bool × List Char) → List Char
  | none => []
  | some (negative, ds) => 'e' :: (if negative then '-' else '+') :: ds

def fractionText : Option (List Char) → List Char
  | none => []
  | some ds => '.' :: ds

def text (d : Decimal) : List Char := d.whole ++ (fractionText d.fraction ++ powerText d.power)

def powerOf : Option (Bool × List Char) → Int
  | none => 0
  | some (negative, ds) =>
    if negative then -(Numeral.ofDigits (values ds) : Int) else Numeral.ofDigits (values ds)

def number (d : Decimal) (negative : Bool) : Binary64 :=
  .ofDigits negative (values d.whole) (values (d.fraction.getD [])) (powerOf d.power)

/-- Every part holds digits, and only a zero alone starts with one. -/
structure IsWritten (d : Decimal) : Prop where
  whole : d.whole ≠ [] ∧ ∀ c ∈ d.whole, c.isDigit
  leading : d.whole.head? = some '0' → d.whole = ['0']
  fraction : ∀ ds ∈ d.fraction, ds ≠ [] ∧ ∀ c ∈ ds, c.isDigit
  power : ∀ p ∈ d.power, p.2 ≠ [] ∧ ∀ c ∈ p.2, c.isDigit

end Decimal

section Read

variable {d : Decimal} {ds rest : List Char} {negative : Bool}

theorem digitRun_append (digits : ∀ c ∈ ds, c.isDigit)
    (stop : ∀ c ∈ rest.head?, c.isDigit = false) : digitRun (ds ++ rest) = (ds, rest) := by
  obtain ⟨run, left⟩ := Text.takeWhile_dropWhile_append ds rest digits stop
  rw [digitRun, List.span_eq_takeWhile_dropWhile, run, left]

theorem fraction_append (digits : ∀ ds ∈ d.fraction, ds ≠ [] ∧ ∀ c ∈ ds, c.isDigit)
    (stop : ∀ c ∈ rest.head?, c.isDigit = false ∧ c ≠ '.') :
    fraction (Decimal.fractionText d.fraction ++ rest) = (d.fraction, rest) := by
  cases given : d.fraction with
  | none =>
    rw [Decimal.fractionText, List.nil_append]
    unfold fraction
    split
    · exact absurd rfl (stop '.' rfl).2
    · rfl
  | some ds =>
    obtain ⟨filled, all⟩ := digits ds given
    obtain ⟨c, cs, rfl⟩ := List.exists_cons_of_ne_nil filled
    have run := digitRun_append all fun c first => (stop c first).1
    rw [Decimal.fractionText, List.cons_append, fraction, run]

theorem exponent_append (digits : ∀ p ∈ d.power, p.2 ≠ [] ∧ ∀ c ∈ p.2, c.isDigit)
    (halts : Halts rest) : exponent (Decimal.powerText d.power ++ rest) = (d.power, rest) := by
  cases given : d.power with
  | none =>
    rw [Decimal.powerText, List.nil_append]
    cases rest with
    | nil => rfl
    | cons c rest =>
      obtain ⟨-, -, lower, upper⟩ := halts c rfl
      rw [exponent, if_neg (not_or.mpr ⟨lower, upper⟩)]
  | some p =>
    obtain ⟨negative, ds⟩ := p
    obtain ⟨filled, all⟩ := digits _ given
    obtain ⟨c, cs, rfl⟩ := List.exists_cons_of_ne_nil filled
    have run := digitRun_append all fun c first => (halts c first).1
    have signed : sign ((if negative then '-' else '+') :: (c :: cs ++ rest)) =
        (negative, c :: cs ++ rest) := by
      cases negative <;> rfl
    rw [Decimal.powerText, List.cons_append, exponent, if_pos (.inl rfl), List.cons_append, signed]
    dsimp only
    rw [run]

theorem head_power (halts : Halts rest) (p : Option (Bool × List Char)) :
    ∀ c ∈ (Decimal.powerText p ++ rest).head?, c.isDigit = false ∧ c ≠ '.' := by
  intro c first
  cases p with
  | none => exact ⟨(halts c first).1, (halts c first).2.1⟩
  | some p =>
    cases first
    exact ⟨rfl, by decide⟩

theorem head_fraction (halts : Halts rest) (d : Decimal) : ∀ c ∈ (Decimal.fractionText d.fraction ++
    (Decimal.powerText d.power ++ rest)).head?, c.isDigit = false := by
  intro c first
  cases given : d.fraction with
  | none =>
    rw [given] at first
    exact (head_power halts d.power c first).1
  | some ds =>
    rw [given] at first
    cases first
    rfl

def wholeRun (cs : List Char) : List Char × List Char :=
  match cs with
  | '0' :: r => (['0'], r)
  | cs => digitRun cs

theorem wholeRun_append (written : d.IsWritten) (halts : Halts rest) : wholeRun (d.text ++ rest) =
    (d.whole, Decimal.fractionText d.fraction ++ (Decimal.powerText d.power ++ rest)) := by
  obtain ⟨filled, digits⟩ := written.whole
  have run := digitRun_append digits (head_fraction halts d)
  rw [Decimal.text, List.append_assoc, List.append_assoc]
  by_cases leading : d.whole.head? = some '0'
  · rw [written.leading leading]
    rfl
  · obtain ⟨c, cs, shape⟩ := List.exists_cons_of_ne_nil filled
    rw [shape] at run leading ⊢
    rw [wholeRun]
    · exact run
    · intro r same
      exact leading (congrArg some (List.cons.inj same).1)

theorem number_eq (negative : Bool) (cs : List Char) : number negative cs =
    match wholeRun cs with
    | (whole, r) =>
      if whole.isEmpty then none
      else match fraction r with
        | (f, r) => match exponent r with
          | (p, r) => match f, p with
            | none, none =>
              if whole.length ≤ maxDigits then
                some (.int (if negative then -Numeral.ofDigits (values whole)
                  else Numeral.ofDigits (values whole)), r)
              else none
            | _, _ => some (.float (.ofDigits negative (values whole) (values (f.getD []))
                (Decimal.powerOf p)), r) := by
  by_cases zero : cs.head? = some '0'
  · obtain ⟨r, rfl⟩ := List.head?_eq_some_iff.mp zero
    rw [number, wholeRun]
    dsimp only
    rcases fraction r with ⟨f | f, r⟩ <;> dsimp only <;>
      rcases exponent r with ⟨p | ⟨s, ds⟩, r⟩ <;> rfl
  · have other (r : List Char) : cs ≠ '0' :: r := fun same => zero (same ▸ rfl)
    rw [number, wholeRun]
    · rcases digitRun cs with ⟨whole, r⟩
      dsimp only
      rcases fraction r with ⟨f | f, r⟩ <;> dsimp only <;>
        rcases exponent r with ⟨p | ⟨s, ds⟩, r⟩ <;> rfl
    · exact other
    · exact other

theorem number_float (written : d.IsWritten) (pointed : d.fraction ≠ none ∨ d.power ≠ none)
    (halts : Halts rest) (negative : Bool) :
    number negative (d.text ++ rest) = some (.float (d.number negative), rest) := by
  rw [number_eq, wholeRun_append written halts]
  dsimp only
  rw [if_neg (by simpa using written.whole.1),
    fraction_append written.fraction (head_power halts d.power)]
  dsimp only
  rw [exponent_append written.power halts]
  dsimp only
  split
  · next noFraction noPower => exact absurd pointed (by simp [noFraction, noPower])
  · rfl

theorem number_int (written : d.IsWritten) (bare : d.fraction = none ∧ d.power = none)
    (short : d.whole.length ≤ maxDigits) (halts : Halts rest) (negative : Bool) :
    number negative (d.text ++ rest) = some (.int (if negative then
      -Numeral.ofDigits (values d.whole) else Numeral.ofDigits (values d.whole)), rest) := by
  rw [number_eq, wholeRun_append written halts]
  dsimp only
  rw [if_neg (by simpa using written.whole.1),
    fraction_append written.fraction (head_power halts d.power)]
  dsimp only
  rw [exponent_append written.power halts, bare.1, bare.2]
  dsimp only
  rw [if_pos short]

/-! ### Texts of floating point numbers -/

theorem exponent?_powerText {p : Option (Bool × List Char)}
    (digits : ∀ q ∈ p, q.2 ≠ [] ∧ ∀ c ∈ q.2, c.isDigit) :
    Binary64.exponent? (Decimal.powerText p) = some (Decimal.powerOf p) := by
  cases p with
  | none => rfl
  | some p =>
    obtain ⟨below, ds⟩ := p
    obtain ⟨filled, all⟩ := digits _ rfl
    have some_digit : values ds ≠ [] := by rwa [Ne, values, List.map_eq_nil_iff]
    obtain ⟨v, vs, shape⟩ := List.exists_cons_of_ne_nil some_digit
    have read := digits_of_isDigit all
    have signed : sign ((if below then '-' else '+') :: ds) = (below, ds) := by
      cases below <;> rfl
    rw [shape] at read
    rw [Decimal.powerText, Binary64.exponent?, if_pos (.inl rfl), signed]
    dsimp only
    rw [read, Decimal.powerOf, shape]

theorem unsigned?_text (written : d.IsWritten) (pointed : d.fraction ≠ none ∨ d.power ≠ none)
    (negative : Bool) : Binary64.unsigned? negative d.text = some (d.number negative) := by
  have power := exponent?_powerText written.power
  obtain ⟨filled, digits⟩ := written.whole
  rw [Decimal.text, Decimal.number]
  cases fraction : d.fraction with
  | some ds =>
    have stops : Stops (Decimal.powerText d.power) := by
      cases d.power with
      | none => exact .nil
      | some p => exact .cons _ rfl (by decide)
    rw [Decimal.fractionText, List.cons_append, Binary64.unsigned?_point filled digits
      (written.fraction ds fraction).2 stops, power]
    rfl
  | none =>
    cases given : d.power with
    | none => exact absurd pointed (by simp [fraction, given])
    | some p =>
      rw [given] at power
      exact (Binary64.unsigned?_bare filled digits _).trans (congrArg _ power)

theorem isWritten_positional (filled : ds ≠ []) (digits : ∀ c ∈ ds, c.isDigit)
    (leading : ds.head? ≠ some '0') (before : Int) : ∃ d : Decimal, d.IsWritten ∧
      d.fraction ≠ none ∧ Binary64.positional ds before = d.text := by
  have zero (n : Nat) (c : Char) (member : c ∈ List.replicate n '0') : c.isDigit :=
    Binary64.isDigit_of_mem_zeros member
  rw [Binary64.positional]
  split
  · refine ⟨⟨['0'], some (List.replicate (-before).toNat '0' ++ ds), none⟩, ⟨?_, ?_, ?_, ?_⟩,
      Option.some_ne_none _, ?_⟩
    · exact ⟨List.cons_ne_nil _ _, List.forall_mem_singleton.mpr rfl⟩
    · exact fun _ => rfl
    · rintro _ ⟨⟩
      exact ⟨List.append_ne_nil_of_right_ne_nil _ filled,
        List.forall_mem_append.mpr ⟨zero _, digits⟩⟩
    · rintro _ ⟨⟩
    · exact (congrArg (['0', '.'] ++ ·) (List.append_nil _)).symm
  · next large =>
    have some_digit : ds.take before.toNat ≠ [] := by
      rw [Ne, List.take_eq_nil_iff]
      exact not_or.mpr ⟨by omega, filled⟩
    refine ⟨⟨ds.take before.toNat ++ List.replicate (before.toNat - ds.length) '0',
      some (if (ds.drop before.toNat).isEmpty then ['0'] else ds.drop before.toNat), none⟩,
      ⟨?_, ?_, ?_, ?_⟩, Option.some_ne_none _, ?_⟩
    · exact ⟨List.append_ne_nil_of_left_ne_nil some_digit _, List.forall_mem_append.mpr
        ⟨fun c member => digits c (List.mem_of_mem_take member), zero _⟩⟩
    · intro first
      rw [List.head?_append_of_ne_nil _ some_digit, List.head?_take, if_neg (by omega)] at first
      exact absurd first leading
    · rintro _ ⟨⟩
      split
      · exact ⟨List.cons_ne_nil _ _, zero 1⟩
      · next more =>
        exact ⟨by simpa using more, fun c member => digits c (List.mem_of_mem_drop member)⟩
    · rintro _ ⟨⟩
    · simp only [Decimal.text, Decimal.fractionText, Decimal.powerText, List.append_nil]

theorem isWritten_scientific (filled : ds ≠ []) (digits : ∀ c ∈ ds, c.isDigit)
    (leading : ds.head? ≠ some '0') (width : Nat) (power : Int) : ∃ d : Decimal, d.IsWritten ∧
      d.power ≠ none ∧ Binary64.scientific width ds power = d.text := by
  obtain ⟨c, ds, rfl⟩ := List.exists_cons_of_ne_nil filled
  let exponent := List.replicate (width - (decimal power.natAbs).length) '0' ++ decimal power.natAbs
  have written (p) (same : p ∈ some (decide (power < 0), exponent)) :
      p.2 ≠ [] ∧ ∀ c ∈ p.2, c.isDigit := by
    cases same
    exact ⟨List.append_ne_nil_of_right_ne_nil _ (decimal_ne_nil _), List.forall_mem_append.mpr
      ⟨fun c => Binary64.isDigit_of_mem_zeros, fun c => isDigit_of_mem_decimal⟩⟩
  have whole : [c] ≠ [] ∧ ∀ d ∈ [c], d.isDigit :=
    ⟨List.cons_ne_nil _ _, List.forall_mem_singleton.mpr (digits c List.mem_cons_self)⟩
  cases ds with
  | nil =>
    refine ⟨⟨[c], none, some (decide (power < 0), exponent)⟩,
      ⟨whole, fun first => absurd first leading, by rintro _ ⟨⟩, written⟩,
      Option.some_ne_none _, ?_⟩
    simp [Binary64.scientific, Decimal.text, Decimal.fractionText, Decimal.powerText, exponent]
  | cons e es =>
    refine ⟨⟨[c], some (e :: es), some (decide (power < 0), exponent)⟩,
      ⟨whole, fun first => absurd first leading, ?_, written⟩, Option.some_ne_none _, ?_⟩
    · rintro _ ⟨⟩
      exact ⟨List.cons_ne_nil _ _, fun d member => digits d (List.mem_cons_of_mem c member)⟩
    · simp [Binary64.scientific, Decimal.text, Decimal.fractionText, Decimal.powerText, exponent]

theorem exists_text {place : Nat} (bound : place < Binary64.magnitudes) :
    ∃ d : Decimal, d.IsWritten ∧ (d.fraction ≠ none ∨ d.power ≠ none) ∧
      Binary64.magnitudeText .data place = d.text ∧
      ∀ negative, d.number negative = .finite negative ⟨place, bound⟩ := by
  by_cases zero : place = 0
  · subst zero
    refine ⟨⟨['0'], some ['0'], none⟩, ⟨?_, fun _ => rfl, ?_, nofun⟩, .inl nofun, rfl, ?_⟩
    · exact ⟨nofun, List.forall_mem_singleton.mpr rfl⟩
    · rintro _ ⟨⟩
      exact ⟨nofun, List.forall_mem_singleton.mpr rfl⟩
    · intro negative
      cases negative <;> rfl
  · have coefficient := Binary64.coefficient_ne_zero zero bound
    have filled := Binary64.dropZeros_ne_nil coefficient
    have digits : ∀ c ∈ Binary64.dropZeros (decimal (Binary64.shortest place).1), c.isDigit :=
      fun _ => Binary64.isDigit_of_mem_dropZeros
    have leading : (Binary64.dropZeros (decimal (Binary64.shortest place).1)).head? ≠ some '0' := by
      obtain ⟨k, whole⟩ := Binary64.exists_dropZeros (decimal (Binary64.shortest place).1)
      have first := head_decimal coefficient
      rwa [whole, List.head?_append_of_ne_nil _ filled] at first
    have read (negative : Bool) := Binary64.unsigned?_magnitudeText negative zero bound
    have plain : Binary64.magnitudeText .plain place = Binary64.magnitudeText .data place := rfl
    have found (d : Decimal) (written : d.IsWritten) (pointed : d.fraction ≠ none ∨ d.power ≠ none)
        (text : Binary64.magnitudeText .data place = d.text) (negative : Bool) :
        d.number negative = .finite negative ⟨place, bound⟩ := by
      have same := read negative
      rw [plain, text, unsigned?_text written pointed negative] at same
      exact Option.some.inj same
    have shape := Binary64.magnitudeText.eq_1 .data place
    rw [if_neg zero] at shape
    dsimp only at shape
    split at shape
    · obtain ⟨d, written, pointed, text⟩ := isWritten_positional filled digits leading
        ((decimal (Binary64.shortest place).1).length + (Binary64.shortest place).2)
      have whole := shape.trans text
      exact ⟨d, written, .inl pointed, whole, found d written (.inl pointed) whole⟩
    · obtain ⟨d, written, pointed, text⟩ := isWritten_scientific filled digits leading
        Binary64.Layout.data.exponentWidth
        ((decimal (Binary64.shortest place).1).length + (Binary64.shortest place).2 - 1)
      have whole := shape.trans text
      exact ⟨d, written, .inr pointed, whole, found d written (.inr pointed) whole⟩

/-! ### Numbers among the other words -/

theorem word?_other {w : String} {c d : Char} {ds : List Char} (shape : w.toList = d :: ds)
    (other : d ≠ c) (cs : List Char) : word? w (c :: cs) = none := by
  rw [word?, shape, List.isPrefixOf?, if_neg]
  exact fun same => other (eq_of_beq same)

theorem scalar_other {c : Char} (other : c ∉ ['n', 't', 'f', 'N', 'I']) (cs : List Char)
    (finite : word? "-Infinity" (c :: cs) = none) : scalar (c :: cs) =
      match c :: cs with
      | '-' :: r => number true r
      | r => number false r := by
  simp only [List.mem_cons, List.not_mem_nil, or_false, not_or] at other
  obtain ⟨n, t, f, upper, infinity⟩ := other
  have null := word?_other (w := "null") rfl (Ne.symm n) cs
  have yes := word?_other (w := "true") rfl (Ne.symm t) cs
  have no := word?_other (w := "false") rfl (Ne.symm f) cs
  have nan := word?_other (w := "NaN") rfl (Ne.symm upper) cs
  have infinite := word?_other (w := "Infinity") rfl (Ne.symm infinity) cs
  unfold scalar
  rw [null, yes, no, nan, infinite]
  generalize word? "-Infinity" (c :: cs) = found at finite ⊢
  subst finite
  rfl

theorem ne_of_isDigit {c d : Char} (digit : c.isDigit) (other : d.isDigit = false) : c ≠ d := by
  intro same
  rw [same, other] at digit
  cases digit

theorem scalar_digit {c : Char} (digit : c.isDigit) (cs : List Char) :
    scalar (c :: cs) = number false (c :: cs) := by
  have other : c ∉ ['n', 't', 'f', 'N', 'I'] := by
    simp only [List.mem_cons, List.not_mem_nil, or_false, not_or]
    exact ⟨ne_of_isDigit digit rfl, ne_of_isDigit digit rfl, ne_of_isDigit digit rfl,
      ne_of_isDigit digit rfl, ne_of_isDigit digit rfl⟩
  have finite := word?_other (w := "-Infinity") rfl (ne_of_isDigit digit (d := '-') rfl).symm cs
  rw [scalar_other other cs finite]
  split
  · next r same => exact absurd (List.cons.inj same).1 (ne_of_isDigit digit rfl)
  · rfl

theorem scalar_minus {c : Char} (digit : c.isDigit) (cs : List Char) :
    scalar ('-' :: c :: cs) = number true (c :: cs) := by
  refine scalar_other (by decide) (c :: cs) ?_
  have word : "-Infinity".toList = '-' :: 'I' :: "nfinity".toList := rfl
  have other : ¬('I' == c) := by simpa using (ne_of_isDigit digit rfl).symm
  rw [word?, word, List.isPrefixOf?, if_pos (beq_self_eq_true _), List.isPrefixOf?, if_neg other]

theorem scalar_signed {i : Int} (short : IsShort i) (halts : Halts rest) :
    scalar (signed i ++ rest) = some (.int i, rest) := by
  have written (n : Nat) : Decimal.IsWritten ⟨decimal n, none, none⟩ := by
    refine ⟨⟨decimal_ne_nil n, fun _ => isDigit_of_mem_decimal⟩, fun zero => ?_, nofun, nofun⟩
    by_cases positive : n = 0
    · rw [positive]
      rfl
    · exact absurd zero (head_decimal positive)
  have text (n : Nat) : Decimal.text ⟨decimal n, none, none⟩ = decimal n := List.append_nil _
  have read (n : Nat) (negative : Bool) (fits : (decimal n).length ≤ maxDigits) :
      number negative (decimal n ++ rest) =
        some (.int (if negative then -(n : Int) else n), rest) := by
    have found := number_int (written n) ⟨rfl, rfl⟩ fits halts negative
    rw [text] at found
    rw [found]
    simp only [ofDigits_values]
  have first (n : Nat) : ∃ c cs, decimal n ++ rest = c :: cs ∧ c.isDigit := by
    obtain ⟨c, cs, shape⟩ := List.exists_cons_of_ne_nil (decimal_ne_nil n)
    exact ⟨c, cs ++ rest, by rw [shape]; rfl,
      isDigit_of_mem_decimal (n := n) (shape ▸ List.mem_cons_self)⟩
  cases i with
  | ofNat n =>
    obtain ⟨c, cs, shape, digit⟩ := first n
    rw [signed, shape, scalar_digit digit, ← shape, read n false short]
    rfl
  | negSucc n =>
    obtain ⟨c, cs, shape, digit⟩ := first (n + 1)
    rw [signed, List.cons_append, shape, scalar_minus digit, ← shape, read (n + 1) true short]
    rfl

theorem scalar_render (x : Binary64) (halts : Halts rest) :
    scalar (Binary64.render .data x ++ rest) = some (.float x, rest) := by
  cases x with
  | nan => rfl
  | infinite negative => cases negative <;> rfl
  | finite negative place =>
    obtain ⟨d, written, pointed, text, value⟩ := exists_text place.isLt
    have read := number_float written pointed halts negative
    rw [value negative] at read
    obtain ⟨c, cs, shape⟩ := List.exists_cons_of_ne_nil written.whole.1
    have digit : c.isDigit := written.whole.2 c (shape ▸ List.mem_cons_self)
    have first : d.text ++ rest = c :: (cs ++ (Decimal.fractionText d.fraction ++
        Decimal.powerText d.power) ++ rest) := by
      rw [Decimal.text, shape]
      rfl
    cases negative with
    | false =>
      change scalar (Binary64.magnitudeText .data place ++ rest) = _
      rw [text, first, scalar_digit digit, ← first, read]
    | true =>
      change scalar ('-' :: (Binary64.magnitudeText .data place ++ rest)) = _
      rw [text, first, scalar_minus digit, ← first, read]

end Read

end Json.Reader

end Concordance
