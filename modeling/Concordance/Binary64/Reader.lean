import Concordance.Text.Blank
import Concordance.Numeral.Digit
import Concordance.Binary64.Basic

/-! Numbers with a point or an exponent, as users write them. -/

namespace Concordance.Binary64

open Numeral

def ofDigits (negative : Bool) (whole fraction : List Nat) (exponent : Int) : Binary64 :=
  ofDecimal negative (Numeral.ofDigits (whole ++ fraction)) (exponent - fraction.length)

def exponent? : List Char → Option Int
  | [] => some 0
  | c :: r =>
    if c = 'e' ∨ c = 'E' then
      let (negative, body) := sign r
      match digits body with
      | (d :: ds, []) =>
        let value := Numeral.ofDigits (d :: ds)
        some (if negative then -value else value)
      | _ => none
    else none

def unsigned? (negative : Bool) (cs : List Char) : Option Binary64 :=
  let word := cs.map Char.toLower
  if word = ['i', 'n', 'f'] ∨ word = ['i', 'n', 'f', 'i', 'n', 'i', 't', 'y'] then
    some (.infinite negative)
  else if word = ['n', 'a', 'n'] then some .nan
  else
    let (whole, r) := digits cs
    let (fraction, r) := match r with
      | '.' :: r => digits r
      | r => ([], r)
    if whole.isEmpty && fraction.isEmpty then none
    else (exponent? r).map (ofDigits negative whole fraction)

def read? (cs : List Char) : Option Binary64 :=
  let (negative, body) := sign (Text.trimBy isPadding cs)
  unsigned? negative body

end Concordance.Binary64
