import Concordance.Annotation.Value
import Concordance.Pattern.Printer

/-! Laying out annotation values as a pattern: the i-th word of every value constrains the i-th
token. -/

namespace Concordance.Pattern

def conjunction : List Attribute → Option Condition
  | [] => none
  | a :: rest => some (rest.foldl (fun c b => .binary "&" c (.attribute b)) (.attribute a))

def overlay (id : String) : List (Option String) → List (List Attribute) → List (List Attribute)
  | [], columns => columns
  | regex :: regexes, columns =>
    (columns.headD [] ++ (regex.map fun r => ⟨id, "=", r⟩).toList) ::
      overlay id regexes columns.tail

def columns (values : List AnnotationValue) : List (List Attribute) :=
  (values.filter (·.isActive)).foldl (fun cols v => overlay v.id v.encode cols) []

def layout (values : List AnnotationValue) : List Token :=
  (columns values).map fun attributes => Token.ofCondition (conjunction attributes)

/-- The pattern text of annotation values, or nothing where no value is active. -/
def ofValues? (values : List AnnotationValue) (within : Option String)
    (primary : Option String) : Option String :=
  match layout values with
  | [] => none
  | tokens => some ((⟨tokens, within⟩ : Pattern).text primary)

end Concordance.Pattern
