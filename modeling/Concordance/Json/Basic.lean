import Concordance.Binary64.Basic

/-! Values of the data exchange format. -/

namespace Concordance

inductive Json
  | null
  | bool (b : Bool)
  | int (i : Int)
  | float (x : Binary64)
  | str (s : String)
  | arr (items : List Json)
  | obj (members : List (String × Json))
  deriving Repr, Inhabited

namespace Json

def get? : Json → String → Option Json
  | .obj members, key => (members.find? (·.1 = key)).map (·.2)
  | _, _ => none

def ofNat (n : Nat) : Json := .int n

def ofOption {α : Type} (f : α → Json) : Option α → Json
  | some a => f a
  | none => .null

def strings (xs : List String) : Json := .arr (xs.map .str)

/-- What counts as present: not null, not false, no zero, and not empty. -/
def truthy : Json → Bool
  | .null => false
  | .bool b => b
  | .int i => i != 0
  | .float x => !x.same .zero
  | .str s => !s.isEmpty
  | .arr items => !items.isEmpty
  | .obj members => !members.isEmpty

/-- What is absent, null or empty is an object without members. -/
def objectAt (j : Json) (key : String) : Json := ((j.get? key).filter truthy).getD (.obj [])

end Json

end Concordance
