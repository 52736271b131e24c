import Concordance.Numeral.Integer
import Concordance.Binary64.Printer
import Concordance.Json.Basic

/-! Writing the data exchange format in plain ASCII, either without blanks or one item a line. -/

namespace Concordance.Json

def hexChar (n : Nat) : Char := if n < 10 then Char.ofNat (48 + n) else Char.ofNat (87 + n)

def unitText (n : Nat) : List Char :=
  '\\' :: 'u' :: [hexChar (n / 4096 % 16), hexChar (n / 256 % 16), hexChar (n / 16 % 16),
    hexChar (n % 16)]

/-- Characters beyond ASCII are written as one unit, or as a pair of units above `FFFF`. -/
def escapeChar (c : Char) : List Char :=
  if c = '"' then ['\\', '"']
  else if c = '\\' then ['\\', '\\']
  else if c = '\n' then ['\\', 'n']
  else if c = '\r' then ['\\', 'r']
  else if c = '\t' then ['\\', 't']
  else if c = '\x08' then ['\\', 'b']
  else if c = '\x0c' then ['\\', 'f']
  else if 0x20 ≤ c.toNat ∧ c.toNat < 0x7F then [c]
  else if c.toNat < 0x10000 then unitText c.toNat
  else
    let n := c.toNat - 0x10000
    unitText (0xD800 + n / 0x400) ++ unitText (0xDC00 + n % 0x400)

def quoted (s : String) : List Char := '"' :: s.toList.flatMap escapeChar ++ ['"']

def scalarText : Json → List Char
  | .null => ['n', 'u', 'l', 'l']
  | .bool true => ['t', 'r', 'u', 'e']
  | .bool false => ['f', 'a', 'l', 's', 'e']
  | .int i => Numeral.signed i
  | .float x => Binary64.render .data x
  | .str s => quoted s
  | _ => []

mutual

def compact : Json → List Char
  | .arr items => '[' :: compactItems items
  | .obj members => '\x7b' :: compactMembers members
  | v => scalarText v

def compactItems : List Json → List Char
  | [] => [']']
  | [v] => compact v ++ [']']
  | v :: vs => compact v ++ ',' :: compactItems vs

def compactMembers : List (String × Json) → List Char
  | [] => ['\x7d']
  | [(k, v)] => quoted k ++ ':' :: compact v ++ ['\x7d']
  | (k, v) :: ms => quoted k ++ ':' :: compact v ++ ',' :: compactMembers ms

end

def indent : Nat := 2

def newline (depth : Nat) : List Char := '\n' :: List.replicate (indent * depth) ' '

mutual

def pretty (depth : Nat) : Json → List Char
  | .arr [] => ['[', ']']
  | .arr items => '[' :: newline (depth + 1) ++ prettyItems depth items
  | .obj [] => ['\x7b', '\x7d']
  | .obj members => '\x7b' :: newline (depth + 1) ++ prettyMembers depth members
  | v => scalarText v

def prettyItems (depth : Nat) : List Json → List Char
  | [] => newline depth ++ [']']
  | [v] => pretty (depth + 1) v ++ newline depth ++ [']']
  | v :: vs => pretty (depth + 1) v ++ ',' :: newline (depth + 1) ++ prettyItems depth vs

def prettyMembers (depth : Nat) : List (String × Json) → List Char
  | [] => newline depth ++ ['\x7d']
  | [(k, v)] => quoted k ++ ':' :: ' ' :: pretty (depth + 1) v ++ newline depth ++ ['\x7d']
  | (k, v) :: ms =>
    quoted k ++ ':' :: ' ' :: pretty (depth + 1) v ++ ',' :: newline (depth + 1) ++
      prettyMembers depth ms

end

def keyLe (a b : String × Json) : Bool := decide (a.1 ≤ b.1)

mutual

def sorted : Json → Json
  | .arr items => .arr (sortedItems items)
  | .obj members => .obj ((sortedMembers members).mergeSort keyLe)
  | v => v

def sortedItems : List Json → List Json
  | [] => []
  | v :: vs => sorted v :: sortedItems vs

def sortedMembers : List (String × Json) → List (String × Json)
  | [] => []
  | (k, v) :: ms => (k, sorted v) :: sortedMembers ms

end

/-- Equal values have one stable text, whatever the order of their members. -/
def stable (v : Json) : String := String.ofList (compact (sorted v))

end Concordance.Json
