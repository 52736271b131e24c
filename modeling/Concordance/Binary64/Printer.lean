import Concordance.Numeral.Integer
import Concordance.Binary64.Basic

/-! The shortest decimal text that reads back as the same number. -/

namespace Concordance.Binary64

/-- The power of ten above a positive quotient: `10 ^ (p - 1) ≤ num / den < 10 ^ p`. -/
def power (num den : Nat) : Int :=
  if den ≤ num then (Numeral.decimal (num / den)).length
  else 1 - ((Numeral.decimal ((den - 1) / num)).length : Int)

/-- The two neighbours of a quotient on the grid of multiples of ten to the power `unit`, the
nearer first, and of two equally near ones the even one. -/
def neighbours (num den : Nat) (unit : Int) : List Nat :=
  let (num, den) := if 0 ≤ unit then (num, den * Nat.pow 10 unit.toNat) else
    (num * Nat.pow 10 (-unit).toNat, den)
  let down := num / den
  let first := nearest num den
  if num % den = 0 then [down] else if first = down then [down, down + 1] else [down + 1, down]

/-- All digits of a magnitude; its unit is a power of ten that divides it. -/
def exact (place : Nat) : Nat × Int :=
  (mantissa place * Nat.pow 2 (shift place - 1074) * Nat.pow 5 (1074 - shift place),
    -((1074 - shift place : Nat) : Int))

/-- A coefficient and a power of ten that read back as the magnitude: on the coarsest grid that
has such a number, the one nearest to the magnitude. -/
def shortest (place : Nat) : Nat × Int :=
  let (num, den) := ratio place
  let p := power num den
  let candidates := (List.range 17).flatMap fun n =>
    let unit := p - (n + 1 : Nat)
    (neighbours num den unit).map fun c => (c, unit)
  let reads (c : Nat × Int) := match ofDecimal false c.1 c.2 with
    | .finite false q => q.val == place
    | _ => false
  (candidates.find? reads).getD (exact place)

/-- How numbers are laid out: the powers of ten of the first digit that are written without an
exponent, the least width of an exponent, and the words for what is no finite number. -/
structure Layout where
  least : Int
  most : Int
  exponentWidth : Nat
  nan : String
  infinity : String

def Layout.plain : Layout := ⟨-4, 15, 2, "nan", "inf"⟩

def Layout.data : Layout := ⟨-4, 15, 2, "NaN", "Infinity"⟩

def dropZeros (ds : List Char) : List Char := Text.trimEnd (· == '0') ds

/-- Digits with the point after the first `before` of them; zeros fill what is missing. -/
def positional (ds : List Char) (before : Int) : List Char :=
  if before ≤ 0 then '0' :: '.' :: List.replicate (-before).toNat '0' ++ ds
  else
    let n := before.toNat
    let fraction := ds.drop n
    ds.take n ++ List.replicate (n - ds.length) '0' ++ '.' ::
      (if fraction.isEmpty then ['0'] else fraction)

def scientific (width : Nat) (ds : List Char) (power : Int) : List Char :=
  let mantissa := match ds with
    | d :: e :: es => d :: '.' :: e :: es
    | ds => ds
  let digits := Numeral.decimal power.natAbs
  mantissa ++ 'e' :: (if power < 0 then '-' else '+') ::
    List.replicate (width - digits.length) '0' ++ digits

def magnitudeText (layout : Layout) (place : Nat) : List Char :=
  if place = 0 then ['0', '.', '0']
  else
    let (coefficient, unit) := shortest place
    let all := Numeral.decimal coefficient
    let before := all.length + unit
    let ds := dropZeros all
    if layout.least ≤ before - 1 ∧ before - 1 ≤ layout.most then positional ds before
    else scientific layout.exponentWidth ds (before - 1)

def render (layout : Layout) : Binary64 → List Char
  | .nan => layout.nan.toList
  | .infinite s => (if s then ['-'] else []) ++ layout.infinity.toList
  | .finite s p => (if s then ['-'] else []) ++ magnitudeText layout p

def text (x : Binary64) : String := String.ofList (render .plain x)

end Concordance.Binary64
