/-! Binary floating point numbers of 64 bits, as exact data: a magnitude is its place in the
increasing list of all finite magnitudes, so order is the order of places. -/

namespace Concordance

def Binary64.fractions : Nat := Nat.pow 2 52

def Binary64.magnitudes : Nat := 2047 * Nat.pow 2 52

inductive Binary64
  | nan
  | infinite (negative : Bool)
  | finite (negative : Bool) (place : Fin Binary64.magnitudes)
  deriving DecidableEq, Repr

namespace Binary64

def mantissa (place : Nat) : Nat :=
  if place < fractions then place else fractions + place % fractions

/-- A magnitude is its mantissa times two to the power `shift place - 1074`. -/
def shift (place : Nat) : Nat := place / fractions - 1

def ratio (place : Nat) : Nat × Nat :=
  if 1074 ≤ shift place then (mantissa place * Nat.pow 2 (shift place - 1074), 1)
  else (mantissa place, Nat.pow 2 (1074 - shift place))

/-- The natural number nearest to a quotient; a half goes to the even neighbour. -/
def nearest (num den : Nat) : Nat :=
  let q := num / den
  let r := num % den
  if 2 * r < den then q else if den < 2 * r then q + 1 else q + q % 2

/-- The place of the magnitude nearest to a quotient; places from `magnitudes` on overflow. -/
def placeOf (num den : Nat) : Nat :=
  let scaled (up : Nat) := if 1074 ≤ up then (num, den * Nat.pow 2 (up - 1074)) else
    (num * Nat.pow 2 (1074 - up), den)
  let guess := num.log2 + 1022 - den.log2
  let up := if (scaled guess).1 < fractions * (scaled guess).2 then guess - 1 else guess
  up * fractions + nearest (scaled up).1 (scaled up).2

def ofPlace (negative : Bool) (place : Nat) : Binary64 :=
  if h : place < magnitudes then .finite negative ⟨place, h⟩ else .infinite negative

def ofRatio (negative : Bool) (num den : Nat) : Binary64 :=
  if num = 0 then .finite negative ⟨0, by decide⟩ else ofPlace negative (placeOf num den)

def zero : Binary64 := .finite false ⟨0, by decide⟩

def ofNat (n : Nat) : Binary64 := ofRatio false n 1

def ofInt? (i : Int) : Option Binary64 :=
  match ofRatio (i < 0) i.natAbs 1 with
  | .finite s p => some (.finite s p)
  | _ => none

/-- `coefficient` times ten to the power `exponent`. The two bounds leave out only magnitudes
beyond every finite one and below half of the smallest. -/
def ofDecimal (negative : Bool) (coefficient : Nat) (exponent : Int) : Binary64 :=
  if coefficient = 0 ∨ exponent + coefficient.log2 < -400 then ofRatio negative 0 1
  else if 400 < exponent then .infinite negative
  else if 0 ≤ exponent then ofRatio negative (coefficient * Nat.pow 10 exponent.toNat) 1
  else ofRatio negative coefficient (Nat.pow 10 (-exponent).toNat)

def isFinite : Binary64 → Bool
  | .finite .. => true
  | _ => false

/-- Both zeros are the same number, and no number equals `nan`. -/
def same : Binary64 → Binary64 → Bool
  | .nan, _ => false
  | _, .nan => false
  | .infinite s, .infinite t => s == t
  | .finite s p, .finite t q => (p.val == 0 && q.val == 0) || (s == t && p == q)
  | _, _ => false

/-- An integer on the line of all numbers, in the order of the numbers. -/
def key : Binary64 → Option Int
  | .nan => none
  | .infinite s => some (if s then -(magnitudes : Int) else magnitudes)
  | .finite s p => some (if s then -(p.val : Int) else p.val)

def le (a b : Binary64) : Bool :=
  match a.key, b.key with
  | some x, some y => x ≤ y
  | _, _ => false

/-- The integer part, toward zero. -/
def truncate? : Binary64 → Option Int
  | .finite s p =>
    let whole := (ratio p).1 / (ratio p).2
    some (if s then -(whole : Int) else whole)
  | _ => none

def isIntegral : Binary64 → Bool
  | .finite _ p => (ratio p).1 % (ratio p).2 == 0
  | _ => false

end Binary64

end Concordance
