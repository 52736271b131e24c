import Concordance.Text.Utf8

/-! Text as units of two or four bytes. Data starts with characters of ASCII, so the zeros among its
first bytes tell the width of its units and which byte comes first. -/

namespace Concordance.Text

def paired? (base : Nat) (highFirst : Bool) : List Nat → Option (List Nat)
  | [] => some []
  | [_] => none
  | a :: b :: ns =>
    (paired? base highFirst ns).map ((if highFirst then base * a + b else base * b + a) :: ·)

def units16? (highFirst : Bool) (bytes : List Nat) : Option (List Nat) :=
  paired? 0x100 highFirst bytes

def units32? (highFirst : Bool) (bytes : List Nat) : Option (List Nat) :=
  (units16? highFirst bytes).bind (paired? 0x10000 highFirst)

def isHighSurrogate (n : Nat) : Bool := 0xD800 ≤ n && n < 0xDC00

def isLowSurrogate (n : Nat) : Bool := 0xDC00 ≤ n && n < 0xE000

def ofSurrogates (high low : Nat) : Char :=
  Char.ofNat (0x10000 + (high - 0xD800) * 0x400 + (low - 0xDC00))

def ofUnits16? : List Nat → Option (List Char)
  | [] => some []
  | n :: ns =>
    if isHighSurrogate n then
      match ns with
      | m :: ns =>
        if isLowSurrogate m then (ofUnits16? ns).map (ofSurrogates n m :: ·) else none
      | [] => none
    else if isLowSurrogate n then none
    else (ofUnits16? ns).map (Char.ofNat n :: ·)

def ofUnits32? (ns : List Nat) : Option (List Char) :=
  ns.mapM fun n => if n.isValidChar then some (Char.ofNat n) else none

/-- The text of data that is written as `text` in units of one byte. -/
def ofData? (text : List Char) : Option (List Char) :=
  let bytes (cs : List Char) := cs.flatMap utf8
  match (bytes (text.take 4)).take 4 |>.map (· == 0) with
  | [true, false, true, false] => (units16? true (bytes text)).bind ofUnits16?
  | [false, true, false, true] => (units16? false (bytes text)).bind ofUnits16?
  | [true, true, true, false] => (units32? true (bytes text)).bind ofUnits32?
  | [false, true, true, true] => (units32? false (bytes text)).bind ofUnits32?
  | _ => some text

end Concordance.Text
