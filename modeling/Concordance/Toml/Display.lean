import Concordance.Text.Literal
import Concordance.Binary64.Printer
import Concordance.Toml.Basic

/-! Values as running text: a text alone as it is, inside of other values between quotes. -/

namespace Concordance.Toml

mutual

def literal : Toml → List Char
  | .str s => Text.literal s.toList
  | .int i => Numeral.signed i
  | .float x => Binary64.render .plain x
  | .bool b => (if b then "True" else "False").toList
  | .date d => d.literal
  | .time t => t.literal
  | .moment m => m.literal
  | .arr items => '[' :: literalItems items
  | .table entries => '\x7b' :: literalEntries entries

def literalItems : List Toml → List Char
  | [] => [']']
  | [v] => literal v ++ [']']
  | v :: vs => literal v ++ ',' :: ' ' :: literalItems vs

def literalEntries : List (String × Toml) → List Char
  | [] => ['\x7d']
  | [(k, v)] => Text.literal k.toList ++ ':' :: ' ' :: literal v ++ ['\x7d']
  | (k, v) :: es =>
    Text.literal k.toList ++ ':' :: ' ' :: literal v ++ ',' :: ' ' :: literalEntries es

end

mutual

/-- The first thing in a value that keeps it from being shown: an integer of more than
`Numeral.maxDigits` digits, or a value with as many others around it as there are levels. -/
def obstacle? : Nat → Toml → Option Failure
  | 0, _ => some .tooDeep
  | _ + 1, .int i =>
    if (Numeral.decimal i.natAbs).length ≤ Numeral.maxDigits then none else some .integerTooLong
  | levels + 1, .arr items => obstacleIn? levels items
  | levels + 1, .table entries => obstacleAmong? levels entries
  | _ + 1, _ => none

def obstacleIn? (levels : Nat) : List Toml → Option Failure
  | [] => none
  | v :: vs => (obstacle? levels v).or (obstacleIn? levels vs)

def obstacleAmong? (levels : Nat) : List (String × Toml) → Option Failure
  | [] => none
  | (_, v) :: es => (obstacle? levels v).or (obstacleAmong? levels es)

end

def shown : Toml → String
  | .str s => s
  | .date d => String.ofList d.text
  | .time t => String.ofList t.text
  | .moment m => String.ofList m.text
  | v => String.ofList (literal v)

end Concordance.Toml
