/-! What may no longer be written at a path of names. A closed table is one that a header or a
dotted name has opened; no header opens it again. A frozen value was written at once, and nothing
is added at or below its path. -/

namespace Concordance.Toml

abbrev Path := List String

/-- Paths in `pending` are closed when the next header is read. -/
structure Marks where
  closed : List Path
  frozen : List Path
  pending : List Path
  deriving DecidableEq, Repr

namespace Marks

def none : Marks := ⟨[], [], []⟩

def isClosed (m : Marks) (path : Path) : Bool := m.closed.contains path

def isFrozen (m : Marks) (path : Path) : Bool := m.frozen.any (·.isPrefixOf path)

def close (m : Marks) (path : Path) : Marks := { m with closed := path :: m.closed }

def freeze (m : Marks) (path : Path) : Marks := { m with frozen := path :: m.frozen }

def suspend (m : Marks) (path : Path) : Marks := { m with pending := path :: m.pending }

def settle (m : Marks) : Marks := { m with closed := m.pending ++ m.closed, pending := [] }

def forget (m : Marks) (path : Path) : Marks :=
  { m with
    closed := m.closed.filter (!path.isPrefixOf ·)
    frozen := m.frozen.filter (!path.isPrefixOf ·) }

end Marks

end Concordance.Toml
