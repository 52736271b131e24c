import Concordance.Text.Literal
import Concordance.Numeral.Integer
import Concordance.Binary64.Printer
import Concordance.Json.Basic

/-! Data as it appears inside messages: a text alone as it is, inside of other data between
quotes. -/

namespace Concordance.Json

mutual

def literal : Json → List Char
  | .null => "None".toList
  | .bool b => (if b then "True" else "False").toList
  | .int i => Numeral.signed i
  | .float x => Binary64.render .plain x
  | .str s => Text.literal s.toList
  | .arr items => '[' :: literalItems items
  | .obj members => '\x7b' :: literalMembers members

def literalItems : List Json → List Char
  | [] => [']']
  | [v] => literal v ++ [']']
  | v :: vs => literal v ++ ',' :: ' ' :: literalItems vs

def literalMembers : List (String × Json) → List Char
  | [] => ['\x7d']
  | [(k, v)] => Text.literal k.toList ++ ':' :: ' ' :: literal v ++ ['\x7d']
  | (k, v) :: ms =>
    Text.literal k.toList ++ ':' :: ' ' :: literal v ++ ',' :: ' ' :: literalMembers ms

end

def shown : Json → String
  | .str s => s
  | v => String.ofList (literal v)

end Concordance.Json
