import Concordance.Text.Utf8
import Concordance.Numeral.Hex

/-! Percent coding of names and values in a query. -/

namespace Concordance.Url

def isUnreserved (c : Char) : Bool :=
  c.isAlphanum || c == '_' || c == '.' || c == '-' || c == '~'

def hexChar (n : Nat) : Char := if n < 10 then Char.ofNat (48 + n) else Char.ofNat (55 + n)

def encodeByte (n : Nat) : List Char := ['%', hexChar (n / 16), hexChar (n % 16)]

/-- A blank is written as a plus sign. -/
def encodeChar (c : Char) : List Char :=
  if isUnreserved c then [c] else if c = ' ' then ['+'] else (Text.utf8 c).flatMap encodeByte

def encode (cs : List Char) : List Char := cs.flatMap encodeChar

/-- A percent sign without two hexadecimal digits after it stands for itself. -/
def units : List Char → List Text.Unit8
  | [] => []
  | '%' :: a :: b :: cs =>
    match Numeral.hexValue? a, Numeral.hexValue? b with
    | some x, some y => .byte (16 * x + y) :: units cs
    | _, _ => .byte 0x25 :: units (a :: b :: cs)
  | c :: cs => (if c.toNat < 0x80 then .byte c.toNat else .char c) :: units cs

def decode (cs : List Char) : List Char := Text.decodeUtf8 (units cs)

def plusToSpace (cs : List Char) : List Char := cs.map fun c => if c = '+' then ' ' else c

def decodeForm (cs : List Char) : List Char := decode (plusToSpace cs)

end Concordance.Url
