/-! Hexadecimal digits in either case. -/

namespace Concordance.Numeral

def hexValue? (c : Char) : Option Nat :=
  if '0' ≤ c ∧ c ≤ '9' then some (c.toNat - 48)
  else if 'A' ≤ c ∧ c ≤ 'F' then some (c.toNat - 55)
  else if 'a' ≤ c ∧ c ≤ 'f' then some (c.toNat - 87)
  else none

def hexValueAux? : Nat → List Char → Option Nat
  | n, [] => some n
  | n, c :: cs => (hexValue? c).bind fun d => hexValueAux? (16 * n + d) cs

def ofHex? (cs : List Char) : Option Nat := hexValueAux? 0 cs

end Concordance.Numeral
