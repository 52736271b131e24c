import Concordance.History
import Concordance.Json.Reader
import Concordance.Snapshot.Json

/-! Past searches in the data exchange format. -/

namespace Concordance.History

namespace Entry

def toJson (e : Entry) : Json :=
  .obj [("time", .str e.time), ("url", .str e.url), ("pattern", .optionalText e.pattern),
    ("filter", .optionalText e.filter), ("view", .optionalText e.view),
    ("state", e.snapshot.toJson)]

def text? (j : Json) (key : String) : Option String :=
  match j.get? key with
  | some (.str s) => some s
  | _ => none

def ofJson? (j : Json) : Option Entry := do
  let time ← text? j "time"
  let url ← text? j "url"
  let state ← j.get? "state"
  match Snapshot.ofJson state with
  | .ok snapshot => some ⟨time, url, text? j "pattern", text? j "filter", text? j "view", snapshot⟩
  | .error _ => none

end Entry

def save (entries : List Entry) : String :=
  String.ofList (Json.pretty 0 (.arr (entries.map Entry.toJson))) ++ "\n"

def load? (text : String) : Option (List Entry) :=
  match Json.read? text.toList with
  | some (.arr items) => items.mapM Entry.ofJson?
  | _ => none

end Concordance.History
