import Concordance.Text.Blank
import Concordance.Text.Escape
import Concordance.Text.Pieces
import Concordance.Corpus
import Concordance.Filter.Clause

/-! Filters on metadata fields, and their texts. Words without blanks have every character
escaped that means something in a query; values with blanks and listed values are only protected
against the quotes around them. -/

namespace Concordance

structure FilterValue where
  id : String
  kind : FieldKind
  values : List String
  deriving DecidableEq, Repr

namespace Filter

def isReserved (c : Char) : Bool :=
  ['+', '-', '&', '|', '!', '(', ')', '\x7b', '\x7d', '[', ']', '^', '"', '~', '*', '?', ':', '\\',
    '/'].contains c

def isQuoting (c : Char) : Bool := c == '"' || c == '\\'

def escapeReserved : List Char → List Char := Text.escape isReserved

def unescapeReserved : List Char → List Char := Text.unescape fun _ => true

def escapeQuotes : List Char → List Char := Text.escape isQuoting

def unescapeQuotes : List Char → List Char := Text.unescape isQuoting

def quoted (cs : List Char) : List Char := '"' :: cs ++ ['"']

def escapeValue (cs : List Char) : List Char :=
  if cs.any Text.isBlank then escapeQuotes cs else escapeReserved cs

def unescapeValue (cs : List Char) : List Char :=
  if cs.any Text.isBlank then unescapeQuotes cs else unescapeReserved cs

def openBound : List Char := ['*']

def clauseText (id : List Char) (values : List (List Char)) : List Char :=
  match values with
  | [v] => '+' :: id ++ ':' :: v
  | vs => '+' :: id ++ ':' :: '(' :: Text.spaced vs ++ [')']

def bound (value : Option String) : List Char :=
  match value with
  | some s => if s.isEmpty then openBound else s.toList
  | none => openBound

def clause? (f : FilterValue) : Option (List Char) :=
  let values := f.values.map String.toList
  let listed (vs : List (List Char)) := if vs.isEmpty then none else
    some (clauseText f.id.toList (vs.map quoted))
  match f.kind with
  | .text => listed ((Text.words (Text.spaced values)).map escapeReserved)
  | .combobox => listed ((values.filter fun v => !(Text.trim v).isEmpty).map escapeValue)
  | .select | .checkbox | .radio => listed ((values.filter (!·.isEmpty)).map escapeQuotes)
  | .range =>
    let low := bound f.values[0]?
    let high := bound f.values[1]?
    if (values.take 2).all (·.isEmpty) then none
    else some ('+' :: f.id.toList ++ ':' :: '[' :: low ++ " TO ".toList ++ high ++ [']'])

def encode? (filters : List FilterValue) : Option String :=
  match filters.filterMap clause? with
  | [] => none
  | clauses => some (String.ofList (Text.spaced clauses))

def decodeValues (kind : FieldKind) (values : List String) : List String :=
  let texts := values.map String.toList
  match kind with
  | .text => [String.ofList (Text.spaced (texts.map unescapeValue))]
  | .combobox => texts.map fun v => String.ofList (unescapeValue v)
  | .select | .checkbox | .radio => texts.map fun v => String.ofList (unescapeQuotes v)
  | .range => texts.map fun v => if v = openBound then "" else String.ofList v

/-- Clauses on undeclared fields, or of a shape that does not fit their field, are dropped. Of
several clauses on one field the last counts. -/
def decodeClauses (clauses : List Clause) (fields : Keyed Field) : Keyed FilterValue :=
  clauses.foldl (fun found c =>
    match fields.get? c.field with
    | none => found
    | some f =>
      if c.isRange = (f.kind == .range) then
        found.insert c.field ⟨c.field, f.kind, decodeValues f.kind c.values⟩
      else found) ∅

def decode (text : Option String) (fields : Keyed Field) : Keyed FilterValue :=
  match text with
  | none => ∅
  | some t =>
    match parse t with
    | .ok clauses => decodeClauses clauses fields
    | .error _ => ∅

end Filter

def FilterValue.isActive (f : FilterValue) : Bool :=
  f.values.any fun v => !(Text.trim v.toList).isEmpty

end Concordance
