import Concordance.Number
import Concordance.Proofs.Binary64.Decimal
import Concordance.Proofs.Numeral

/-! Floating point numbers read back from the text they are shown as. -/

namespace Concordance

namespace Binary64

open Numeral

variable {negative : Bool} {cs ds rest : List Char}

theorem toLower_of_isDigit {c : Char} (digit : c.isDigit) : c.toLower = c := by
  simp only [Char.isDigit, Bool.and_eq_true, decide_eq_true_eq] at digit
  refine dif_neg fun upper => ?_
  have high := UInt32.le_iff_toNat_le.mp digit.2
  have low := UInt32.le_iff_toNat_le.mp upper.1
  exact absurd (Nat.le_trans low high) (by decide)

theorem map_toLower_ne {c : Char} (digit : c.isDigit) {d : Char} (letter : d.isDigit = false)
    (cs ds : List Char) : (c :: cs).map Char.toLower ≠ d :: ds := by
  intro same
  have first : c.toLower = d := (List.cons.inj same).1
  rw [toLower_of_isDigit digit] at first
  rw [first, letter] at digit
  cases digit

theorem unsigned?_cons {c : Char} (digit : c.isDigit) (cs : List Char) :
    unsigned? negative (c :: cs) =
      let (whole, r) := digits (c :: cs)
      let (fraction, r) := match r with
        | '.' :: r => digits r
        | r => ([], r)
      if whole.isEmpty && fraction.isEmpty then none
      else (exponent? r).map (ofDigits negative whole fraction) := by
  have inf := map_toLower_ne digit (d := 'i') rfl cs
  have nan := map_toLower_ne digit (d := 'n') rfl cs
  rw [unsigned?]
  dsimp only
  refine (if_neg (not_or.mpr ⟨inf _, inf _⟩)).trans ?_
  exact if_neg (nan _)

theorem unsigned?_point (filled : cs ≠ []) (whole : ∀ c ∈ cs, c.isDigit)
    (fraction : ∀ c ∈ ds, c.isDigit) (stops : Stops rest) :
    unsigned? negative (cs ++ '.' :: (ds ++ rest)) =
      (exponent? rest).map (ofDigits negative (values cs) (values ds)) := by
  obtain ⟨c, cs, rfl⟩ := List.exists_cons_of_ne_nil filled
  rw [List.cons_append, unsigned?_cons (whole c List.mem_cons_self), ← List.cons_append,
    digits_append whole (.cons _ rfl (by decide))]
  simp only [digits_append fraction stops]
  rfl

theorem unsigned?_bare (filled : cs ≠ []) (whole : ∀ c ∈ cs, c.isDigit) (rest : List Char) :
    unsigned? negative (cs ++ 'e' :: rest) =
      (exponent? ('e' :: rest)).map (ofDigits negative (values cs) []) := by
  obtain ⟨c, cs, rfl⟩ := List.exists_cons_of_ne_nil filled
  rw [List.cons_append, unsigned?_cons (whole c List.mem_cons_self), ← List.cons_append,
    digits_append whole (.cons _ rfl (by decide))]
  rfl

theorem isDigit_of_mem_zeros {n : Nat} {c : Char} (member : c ∈ List.replicate n '0') :
    c.isDigit := by
  rw [List.eq_of_mem_replicate member]
  rfl

theorem exponent?_written (width : Nat) (power : Int) :
    exponent? ('e' :: (if power < 0 then '-' else '+') ::
      (List.replicate width '0' ++ decimal power.natAbs)) = some power := by
  have digits : ∀ c ∈ List.replicate width '0' ++ decimal power.natAbs, c.isDigit := by
    intro c member
    rcases List.mem_append.mp member with zero | digit
    · exact isDigit_of_mem_zeros zero
    · exact isDigit_of_mem_decimal digit
  have value : Numeral.ofDigits (values (List.replicate width '0' ++ decimal power.natAbs)) =
      power.natAbs := by
    rw [values_append, values_zeros, ofDigits_leading, ofDigits_values]
  have some_digit : values (List.replicate width '0' ++ decimal power.natAbs) ≠ [] := by
    rw [Ne, values, List.map_eq_nil_iff]
    exact List.append_ne_nil_of_right_ne_nil _ (decimal_ne_nil _)
  obtain ⟨d, ds, shape⟩ := List.exists_cons_of_ne_nil some_digit
  have read := digits_of_isDigit digits
  rw [shape] at read value
  rw [exponent?, if_pos (.inl rfl)]
  by_cases below : power < 0
  · rw [if_pos below]
    simp only [sign, read, value, if_true, Option.some.injEq]
    omega
  · rw [if_neg below]
    simp only [sign, read, value, Bool.false_eq_true, if_false, Option.some.injEq]
    omega

theorem unsigned?_positional (filled : ds ≠ []) (digits : ∀ c ∈ ds, c.isDigit) (before : Int) :
    unsigned? negative (positional ds before) =
      some (ofDecimal negative (Numeral.ofDigits (values ds)) (before - ds.length)) := by
  rw [positional]
  split
  · next small =>
    obtain ⟨k, rfl⟩ := Int.exists_eq_neg_ofNat small
    have shape : '0' :: '.' :: List.replicate (- -(k : Int)).toNat '0' ++ ds =
        ['0'] ++ '.' :: ((List.replicate k '0' ++ ds) ++ []) := by
      rw [Int.neg_neg, Int.toNat_natCast, List.append_nil]
      rfl
    have fraction : ∀ c ∈ List.replicate k '0' ++ ds, c.isDigit := by
      intro c member
      exact (List.mem_append.mp member).elim isDigit_of_mem_zeros (digits c)
    have zero : values ['0'] = List.replicate 1 0 := rfl
    have digit : ∀ c ∈ ['0'], c.isDigit := List.forall_mem_singleton.mpr rfl
    have width : (0 : Int) - ((k + ds.length : Nat) : Int) = -(k : Int) - ds.length := by omega
    rw [shape, unsigned?_point (List.cons_ne_nil _ _) digit fraction .nil]
    simp only [exponent?, Option.map_some, ofDigits, zero, values_append, values_zeros,
      ofDigits_leading, List.length_append, List.length_replicate, length_values, width]
  · next large =>
    obtain ⟨n, rfl⟩ := Int.eq_ofNat_of_zero_le (Int.le_of_lt (Int.not_le.mp large))
    dsimp only
    rw [Int.toNat_natCast]
    cases fraction : ds.drop n with
    | nil =>
      have short : ds.length ≤ n := List.drop_eq_nil_iff.mp fraction
      have whole : ∀ c ∈ ds ++ List.replicate (n - ds.length) '0', c.isDigit := by
        intro c member
        exact (List.mem_append.mp member).elim (digits c) isDigit_of_mem_zeros
      have zero : values ['0'] = List.replicate 1 0 := rfl
      have digit : ∀ c ∈ ['0'], c.isDigit := List.forall_mem_singleton.mpr rfl
      have width : (0 : Int) - ((1 : Nat) : Int) + ((n - ds.length + 1 : Nat) : Int) =
          n - ds.length := by omega
      rw [List.take_of_length_le short]
      have read : unsigned? negative (ds ++ List.replicate (n - ds.length) '0' ++
          '.' :: (['0'] ++ [])) = _ :=
        unsigned?_point (List.append_ne_nil_of_left_ne_nil filled _) whole digit .nil
      refine read.trans ?_
      simp only [exponent?, Option.map_some, ofDigits, zero, values_append, values_zeros,
        List.append_assoc, List.replicate_append_replicate, ofDigits_trailing,
        List.length_replicate, ofDecimal_mul_pow, width]
    | cons c rest =>
      have long : n < ds.length := by
        by_contra short
        rw [List.drop_eq_nil_of_le (Nat.le_of_not_lt short)] at fraction
        cases fraction
      have none : n - ds.length = 0 := Nat.sub_eq_zero_of_le (Nat.le_of_lt long)
      have before : ds.take n ≠ [] := by
        rw [Ne, List.take_eq_nil_iff]
        exact not_or.mpr ⟨by omega, filled⟩
      have whole : ∀ c ∈ ds.take n, c.isDigit :=
        fun c member => digits c (List.mem_of_mem_take member)
      have rest_digits : ∀ c ∈ ds.drop n, c.isDigit := fun c member =>
        digits c (List.mem_of_mem_drop member)
      have width : (0 : Int) - ((ds.length - n : Nat) : Int) = n - ds.length := by omega
      have read : unsigned? negative (ds.take n ++ '.' :: (ds.drop n ++ [])) = _ :=
        unsigned?_point before whole rest_digits .nil
      rw [List.append_nil] at read
      rw [none, List.replicate_zero, List.append_nil, ← fraction, List.isEmpty_eq_false_iff.mpr
        (by rw [fraction]; exact List.cons_ne_nil _ _), if_neg Bool.false_ne_true]
      refine read.trans ?_
      simp only [exponent?, Option.map_some, ofDigits, ← values_append, List.take_append_drop,
        length_values, List.length_drop, width]

theorem unsigned?_scientific (filled : ds ≠ []) (digits : ∀ c ∈ ds, c.isDigit) (width : Nat)
    (power : Int) : unsigned? negative (scientific width ds power) =
      some (ofDecimal negative (Numeral.ofDigits (values ds)) (power + 1 - ds.length)) := by
  have exponent := exponent?_written (width - (decimal power.natAbs).length) power
  obtain ⟨d, ds, rfl⟩ := List.exists_cons_of_ne_nil filled
  have first : ∀ c ∈ [d], c.isDigit := fun c member =>
    digits c (List.mem_singleton.mp member ▸ List.mem_cons_self)
  cases ds with
  | nil =>
    have last : power - (([] : List Nat).length : Int) = power + 1 - ([d].length : Int) := by
      rw [List.length_nil, List.length_singleton]
      omega
    change unsigned? negative ([d] ++ 'e' :: (if power < 0 then '-' else '+') :: (_ ++ _)) = _
    rw [unsigned?_bare filled first, exponent, Option.map_some, ofDigits, List.append_nil, last]
  | cons e es =>
    have fraction : ∀ c ∈ e :: es, c.isDigit := fun c member =>
      digits c (List.mem_cons_of_mem d member)
    have last : power - ((values (e :: es)).length : Int) =
        power + 1 - ((d :: e :: es).length : Int) := by
      rw [length_values, List.length_cons, List.length_cons, List.length_cons]
      omega
    have shape : scientific width (d :: e :: es) power = [d] ++ '.' :: (e :: es ++
        'e' :: (if power < 0 then '-' else '+') :: (_ ++ _)) :=
      List.append_assoc (d :: '.' :: e :: es) _ _
    rw [shape, unsigned?_point (List.cons_ne_nil _ _) first fraction (.cons _ rfl (by decide)),
      exponent, Option.map_some, ofDigits, ← values_append, last]
    rfl

theorem exists_dropZeros (cs : List Char) : ∃ n, cs = dropZeros cs ++ List.replicate n '0' := by
  induction cs using List.reverseRecOn with
  | nil => exact ⟨0, rfl⟩
  | append_singleton cs c ih =>
    by_cases zero : c = '0'
    · obtain ⟨n, whole⟩ := ih
      refine ⟨n + 1, ?_⟩
      rw [dropZeros, zero, Text.trimEnd_concat cs rfl, List.replicate_succ', ← List.append_assoc]
      exact congrArg (· ++ ['0']) whole
    · refine ⟨0, ?_⟩
      rw [dropZeros, Text.trimEnd_of_last, List.replicate_zero, List.append_nil]
      intro d last
      rw [List.getLast?_concat, Option.mem_some_iff] at last
      simpa [← last] using zero

theorem isDigit_of_mem_dropZeros {n : Nat} {c : Char} (member : c ∈ dropZeros (decimal n)) :
    c.isDigit := by
  obtain ⟨k, whole⟩ := exists_dropZeros (decimal n)
  apply isDigit_of_mem_decimal (n := n)
  rw [whole]
  exact List.mem_append_left _ member

theorem exists_coefficient (n : Nat) : ∃ k,
    n = Numeral.ofDigits (values (dropZeros (decimal n))) * 10 ^ k ∧
      (decimal n).length = (dropZeros (decimal n)).length + k := by
  obtain ⟨k, whole⟩ := exists_dropZeros (decimal n)
  refine ⟨k, ?_, ?_⟩
  · rw [← ofDigits_trailing, ← values_zeros, ← values_append, ← whole, ofDigits_values]
  · have lengths := congrArg List.length whole
    rwa [List.length_append, List.length_replicate] at lengths

theorem dropZeros_ne_nil {n : Nat} (filled : n ≠ 0) : dropZeros (decimal n) ≠ [] := by
  intro none
  obtain ⟨k, value, -⟩ := exists_coefficient n
  rw [none] at value
  exact filled (value.trans (Nat.zero_mul _))

theorem unsigned?_magnitudeText (negative : Bool) {place : Nat} (positive : place ≠ 0)
    (bound : place < magnitudes) : unsigned? negative (magnitudeText .plain place) =
      some (.finite negative ⟨place, bound⟩) := by
  have read := ofDecimal_shortest_sign negative positive bound
  have filled := dropZeros_ne_nil (coefficient_ne_zero positive bound)
  obtain ⟨k, value, length⟩ := exists_coefficient (shortest place).1
  rw [value, ofDecimal_mul_pow] at read
  rw [magnitudeText, if_neg positive]
  dsimp only
  split
  · rw [unsigned?_positional filled (fun _ => isDigit_of_mem_dropZeros), ← read]
    congr 2
    omega
  · rw [unsigned?_scientific filled (fun _ => isDigit_of_mem_dropZeros), ← read]
    congr 2
    omega

def isNumeric (c : Char) : Bool := c.isDigit || ['.', 'e', '+', '-'].contains c

theorem isNumeric_of_isDigit {c : Char} (digit : c.isDigit) : isNumeric c := by
  rw [isNumeric, digit]
  rfl

theorem isPadding_of_isNumeric {c : Char} (numeric : isNumeric c) : isPadding c = false := by
  rw [isNumeric, Bool.or_eq_true, List.contains_iff_mem] at numeric
  rcases numeric with digit | mark
  · exact isPadding_of_isDigit digit
  · simp only [List.mem_cons, List.not_mem_nil, or_false] at mark
    rcases mark with rfl | rfl | rfl | rfl <;> rfl

/-- A text of a number starts with a digit, and holds a point or an exponent. -/
structure IsShown (cs : List Char) : Prop where
  numeric : ∀ c ∈ cs, isNumeric c
  first : ∀ c ∈ cs.head?, c.isDigit
  noInteger : ∃ c ∈ cs, digit? c = none ∧ c ≠ '_'

theorem isShown_positional (filled : ds ≠ []) (digits : ∀ c ∈ ds, c.isDigit) (before : Int) :
    IsShown (positional ds before) := by
  have zeros (n : Nat) : ∀ c ∈ List.replicate n '0', isNumeric c := fun c member =>
    isNumeric_of_isDigit (isDigit_of_mem_zeros member)
  rw [positional]
  split
  · refine ⟨?_, ?_, '.', by simp, rfl, by decide⟩
    · simp only [List.cons_append, List.forall_mem_cons, List.forall_mem_append]
      exact ⟨rfl, rfl, zeros _, fun c member => isNumeric_of_isDigit (digits c member)⟩
    · intro c member
      cases member
      rfl
  · next large =>
    refine ⟨?_, ?_, '.', by simp, rfl, by decide⟩
    · simp only [List.forall_mem_cons, List.forall_mem_append]
      refine ⟨⟨?_, zeros _⟩, rfl, ?_⟩
      · exact fun c member => isNumeric_of_isDigit (digits c (List.mem_of_mem_take member))
      · split
        · exact zeros 1
        · exact fun c member => isNumeric_of_isDigit (digits c (List.mem_of_mem_drop member))
    · obtain ⟨d, ds, rfl⟩ := List.exists_cons_of_ne_nil filled
      obtain ⟨n, width⟩ : ∃ n, before.toNat = n + 1 := Nat.exists_eq_succ_of_ne_zero (by omega)
      intro c member
      rw [width] at member
      cases member
      exact digits d List.mem_cons_self

theorem isShown_scientific (filled : ds ≠ []) (digits : ∀ c ∈ ds, c.isDigit) (width : Nat)
    (power : Int) : IsShown (scientific width ds power) := by
  obtain ⟨d, ds, rfl⟩ := List.exists_cons_of_ne_nil filled
  have digit := digits d List.mem_cons_self
  have sign : isNumeric (if power < 0 then '-' else '+') := by split <;> rfl
  have zeros (n : Nat) : ∀ c ∈ List.replicate n '0', isNumeric c := fun c member =>
    isNumeric_of_isDigit (isDigit_of_mem_zeros member)
  have exponent : ∀ c ∈ decimal power.natAbs, isNumeric c := fun c member =>
    isNumeric_of_isDigit (isDigit_of_mem_decimal member)
  have later : ∀ c ∈ ds, isNumeric c := fun c member =>
    isNumeric_of_isDigit (digits c (List.mem_cons_of_mem d member))
  cases ds with
  | nil =>
    refine ⟨?_, ?_, 'e', by simp [scientific], rfl, by decide⟩
    · simp only [scientific, List.forall_mem_cons, List.forall_mem_append]
      exact ⟨⟨⟨isNumeric_of_isDigit digit, nofun⟩, rfl, sign, zeros _⟩, exponent⟩
    · intro c member
      cases member
      exact digit
  | cons e es =>
    refine ⟨?_, ?_, 'e', by simp [scientific], rfl, by decide⟩
    · simp only [scientific, List.forall_mem_cons, List.forall_mem_append] at later ⊢
      exact ⟨⟨⟨isNumeric_of_isDigit digit, rfl, later⟩, rfl, sign, zeros _⟩, exponent⟩
    · intro c member
      cases member
      exact digit

theorem isShown_magnitudeText {place : Nat} (positive : place ≠ 0) (bound : place < magnitudes) :
    IsShown (magnitudeText .plain place) := by
  have filled := dropZeros_ne_nil (coefficient_ne_zero positive bound)
  rw [magnitudeText, if_neg positive]
  dsimp only
  split
  · exact isShown_positional filled (fun _ => isDigit_of_mem_dropZeros) _
  · exact isShown_scientific filled (fun _ => isDigit_of_mem_dropZeros) _ _

theorem digit_of_mem_moreDigits {cs : List Char} (whole : (moreDigits cs).2 = []) :
    ∀ c ∈ cs, digit? c ≠ none ∨ c = '_' := by
  induction cs using moreDigits.induct with
  | case1 => exact List.forall_mem_nil _
  | case2 c r d digit _ _ _ ih =>
    rw [moreDigits, digit] at whole
    have first : digit? c ≠ none := by rw [digit]; exact Option.some_ne_none d
    exact List.forall_mem_cons.mpr ⟨.inr rfl, List.forall_mem_cons.mpr ⟨.inl first, ih whole⟩⟩
  | case3 c r noDigit =>
    rw [moreDigits, noDigit] at whole
    cases whole
  | case4 c r joint d digit _ _ _ ih =>
    rw [moreDigits, digit] at whole
    · have first : digit? c ≠ none := by rw [digit]; exact Option.some_ne_none d
      exact List.forall_mem_cons.mpr ⟨.inl first, ih whole⟩
    · exact joint
  | case5 c r joint noDigit =>
    rw [moreDigits, noDigit] at whole
    · cases whole
    · exact joint

theorem digit_of_mem_digits {cs : List Char} (whole : (digits cs).2 = []) :
    ∀ c ∈ cs, digit? c ≠ none ∨ c = '_' := by
  cases cs with
  | nil => exact List.forall_mem_nil _
  | cons c r =>
    rw [digits] at whole
    cases digit : digit? c with
    | none =>
      rw [digit] at whole
      cases whole
    | some d =>
      rw [digit] at whole
      have first : digit? c ≠ none := by rw [digit]; exact Option.some_ne_none d
      exact List.forall_mem_cons.mpr ⟨.inl first, digit_of_mem_moreDigits whole⟩

theorem IsShown.sign (shown : IsShown cs) : sign cs = (false, cs) := by
  cases cs with
  | nil => rfl
  | cons c r =>
    have digit := shown.first c rfl
    rw [Numeral.sign]
    all_goals
      intro _ same
      cases same
      exact absurd digit (by decide)

theorem IsShown.digits (shown : IsShown cs) : (digits cs).2 ≠ [] := by
  intro whole
  obtain ⟨c, member, noDigit, joint⟩ := shown.noInteger
  rcases digit_of_mem_digits whole c member with digit | same
  · exact digit noDigit
  · exact joint same

def signed (negative : Bool) (cs : List Char) : List Char :=
  (if negative then ['-'] else []) ++ cs

theorem IsShown.trimBy_signed (shown : IsShown cs) (negative : Bool) :
    Text.trimBy isPadding (signed negative cs) = signed negative cs := by
  have numeric : ∀ c ∈ signed negative cs, isPadding c = false := by
    intro c member
    apply isPadding_of_isNumeric
    rcases List.mem_append.mp member with sign | inside
    · cases negative with
      | true => rw [List.mem_singleton.mp sign]; rfl
      | false => cases sign
    · exact shown.numeric c inside
  apply Text.Solid.trimBy
  constructor
  · exact fun c first => numeric c (List.mem_of_mem_head? first)
  · exact fun c last => numeric c (List.mem_of_mem_getLast? last)

theorem IsShown.sign_signed (shown : IsShown cs) (negative : Bool) :
    Numeral.sign (signed negative cs) = (negative, cs) := by
  cases negative with
  | true => rfl
  | false => exact shown.sign

theorem IsShown.integer? (shown : IsShown cs) (negative : Bool) :
    Numeral.integer? (signed negative cs) = none := by
  rw [Numeral.integer?, shown.trimBy_signed, shown.sign_signed]
  dsimp only
  split
  · next whole => exact absurd (congrArg (·.2) whole) shown.digits
  · rfl

theorem read?_render (negative : Bool) {place : Fin magnitudes} (positive : place.val ≠ 0) :
    Number.read? (render .plain (.finite negative place)) =
      some (.float (.finite negative place)) := by
  have shown := isShown_magnitudeText positive place.isLt
  have text : render .plain (.finite negative place) =
      signed negative (magnitudeText .plain place) := rfl
  rw [text, Number.read?, shown.integer?, read?, shown.trimBy_signed, shown.sign_signed]
  dsimp only
  rw [unsigned?_magnitudeText negative positive place.isLt]
  rfl

end Binary64

end Concordance
