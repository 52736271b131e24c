import Concordance.Console.Markup

/-! What a command shows: lines and tables, on the screen or among the errors. -/

namespace Concordance.Console

inductive Stream
  | out
  | err
  deriving DecidableEq, Repr

/-- A table without a header has columns without names. -/
inductive Item
  | line (text : String)
  | table (title : Option String) (columns : List String) (rows : List (List String))
  deriving DecidableEq, Repr

abbrev Shown := Stream × Item

namespace Item

def line? (markup : String) : Option Item := (Markup.shown? markup).map .line

def table? (title : Option String) (columns : List String) (cells : List (List String)) :
    Option Item :=
  (cells.mapM (List.mapM Markup.shown?)).map (.table title columns)

/-- Names with their values, in order; what has no value, or an empty one, is left out. -/
def fields? (title : Option String) (rows : List (String × Option String)) : Option Item :=
  table? title ["", ""] (rows.filterMap fun r =>
    match r.2 with
    | some value => if value.isEmpty then none else some [r.1, Markup.escape value]
    | none => none)

end Item

end Concordance.Console
