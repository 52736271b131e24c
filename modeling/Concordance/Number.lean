import Concordance.Binary64.Reader
import Concordance.Binary64.Printer
import Concordance.Numeral.Integer

/-! Numbers that are either integers of any size or floating point. -/

namespace Concordance

inductive Number
  | int (i : Int)
  | float (x : Binary64)
  deriving DecidableEq, Repr

namespace Number

def render : Number → List Char
  | int i => Numeral.signed i
  | float x => Binary64.render .plain x

def read? (cs : List Char) : Option Number :=
  match Numeral.integer? cs with
  | some i => some (int i)
  | none => (Binary64.read? cs).map float

def integer? : Number → Option Int
  | int i => some i
  | float x => if x.isIntegral then x.truncate? else none

def between (low high : Int) : Number → Bool
  | int i => low ≤ i && i ≤ high
  | float x =>
    match Binary64.ofInt? low, Binary64.ofInt? high with
    | some l, some h => l.le x && x.le h
    | _, _ => false

def isSelfEqual : Number → Bool
  | float .nan => false
  | _ => true

end Number

end Concordance
