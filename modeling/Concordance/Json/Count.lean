import Concordance.Numeral.Integer
import Concordance.Json.Basic

/-! Data taken for a count. -/

namespace Concordance.Json

inductive NoCount
  | notANumber
  | infinite
  | wrongType
  | noObject
  deriving DecidableEq, Repr

/-- Fractions are cut off, and texts are read as integers. -/
def count : Json → Except NoCount Int
  | .int i => .ok i
  | .bool b => .ok (if b then 1 else 0)
  | .float x =>
    match x.truncate? with
    | some i => .ok i
    | none => .error (if x = .nan then .notANumber else .infinite)
  | .str s =>
    match Numeral.integer? s.toList with
    | some i => .ok i
    | none => .error .notANumber
  | .null | .arr _ | .obj _ => .error .wrongType

def objectIn (j : Json) (key : String) : Except NoCount Json :=
  match j, j.objectAt key with
  | .obj _, .obj members => .ok (.obj members)
  | _, _ => .error .noObject

/-- What is absent, or counts as nothing, is zero. -/
def countOrZero (v : Option Json) : Except NoCount Int :=
  match v with
  | some v => if v.truthy then v.count else .ok 0
  | none => .ok 0

end Concordance.Json
