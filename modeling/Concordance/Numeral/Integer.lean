import Concordance.Text.Blank
import Concordance.Numeral.Digit

/-! Integers as users write them: padded, signed, grouped by `_`, in the digits of any script. -/

namespace Concordance.Numeral

/-- Longer integers are refused. -/
def maxDigits : Nat := 4300

def integer? (cs : List Char) : Option Int :=
  let (negative, body) := sign (Text.trimBy isPadding cs)
  match digits body with
  | (d :: ds, []) =>
    let value := ofDigits (d :: ds)
    if (d :: ds).length ≤ maxDigits then some (if negative then -value else value) else none
  | _ => none

def decimal (n : Nat) : List Char := Nat.toDigits 10 n

def signed : Int → List Char
  | .ofNat n => decimal n
  | .negSucc n => '-' :: decimal (n + 1)

end Concordance.Numeral
