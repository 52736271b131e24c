import Concordance.Text.Literal
import Concordance.Binary64.Printer
import Concordance.Toml.Basic

/-! Writing configuration files. A table shows its own values under a header with its full name,
unless it has none and is only there for the tables in it; blocks are set apart by a blank line. -/

namespace Concordance.Toml

def quotedChar (c : Char) : List Char :=
  if c = '"' ∨ c = '\\' then ['\\', c]
  else if c = '\x08' then ['\\', 'b']
  else if c = '\n' then ['\\', 'n']
  else if c = '\x0c' then ['\\', 'f']
  else if c = '\r' then ['\\', 'r']
  else if (c.toNat < 0x20 ∧ c ≠ '\t') ∨ c.toNat = 0x7F then '\\' :: 'u' :: Text.hex 4 c.toNat
  else [c]

def quoted (cs : List Char) : List Char := '"' :: cs.flatMap quotedChar ++ ['"']

def nameText (name : String) : List Char :=
  let cs := name.toList
  if !cs.isEmpty && cs.all isBareChar then cs else quoted cs

def indent (depth : Nat) : List Char := List.replicate (4 * depth) ' '

mutual

/-- A value at a depth of lists; each item of a list has a line of its own. -/
def valueText (depth : Nat) : Toml → List Char
  | .str s => quoted s.toList
  | .int i => Numeral.signed i
  | .float x => Binary64.render .plain x
  | .bool b => (if b then "true" else "false").toList
  | .date d => d.text
  | .time t => t.text
  | .moment m => m.text
  | .arr [] => ['[', ']']
  | .arr items => '[' :: '\n' :: itemLines (depth + 1) items ++ indent depth ++ [']']
  | .table [] => ['\x7b', '\x7d']
  | .table entries => '\x7b' :: ' ' :: memberText depth entries ++ [' ', '\x7d']

def itemLines (depth : Nat) : List Toml → List Char
  | [] => []
  | v :: vs => indent depth ++ valueText depth v ++ ',' :: '\n' :: itemLines depth vs

def memberText (depth : Nat) : List (String × Toml) → List Char
  | [] => []
  | [(k, v)] => nameText k ++ " = ".toList ++ valueText depth v
  | (k, v) :: es => nameText k ++ " = ".toList ++ valueText depth v ++ ", ".toList ++
      memberText depth es

end

def isTable : Toml → Bool
  | .table _ => true
  | _ => false

def line (e : String × Toml) : List Char :=
  nameText e.1 ++ " = ".toList ++ valueText 0 e.2 ++ ['\n']

def dotted (name : List Char) (key : String) : List Char :=
  if name.isEmpty then nameText key else name ++ '.' :: nameText key

def ownBlock (name : List Char) (entries : Entries) : List (List Char) :=
  let own := entries.filter (!isTable ·.2)
  let headed := !name.isEmpty && (!own.isEmpty || entries.isEmpty)
  let text := (if headed then '[' :: name ++ [']', '\n'] else []) ++ own.flatMap line
  if text.isEmpty then [] else [text]

mutual

def blocks (name : List Char) : Toml → List (List Char)
  | .table entries => ownBlock name entries ++ innerBlocks name entries
  | _ => []

def innerBlocks (name : List Char) : List (String × Toml) → List (List Char)
  | [] => []
  | (key, v) :: es => blocks (dotted name key) v ++ innerBlocks name es

end

def write (entries : Entries) : String :=
  String.ofList (List.intercalate ['\n'] (blocks [] (.table entries)))

end Concordance.Toml
