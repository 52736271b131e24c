import Concordance.Text.Escape

/-! Words with wildcards, literal texts, and the regular expressions they stand for. -/

namespace Concordance

namespace Regex

def isSpecial (c : Char) : Bool := "^$-\\.+()[]\x7b\x7d".toList.contains c

def isMeta (c : Char) : Bool := isSpecial c || c == '|' || c == '*' || c == '?'

def escape : List Char → List Char := Text.escape isMeta

/-- A backslash before a line feed stays. -/
def unescape : List Char → List Char := Text.unescape (· != '\n')

end Regex

namespace Wildcard

def unit (c : Char) : List Char :=
  if Regex.isSpecial c then ['\\', c]
  else if c = '*' then ['.', '*']
  else if c = '?' then ['.']
  else [c]

/-- `*` stands for any text and `?` for any character; all else but `|` is literal. -/
def toRegex (word : List Char) : List Char := word.flatMap unit

def ofRegex : List Char → List Char
  | [] => []
  | '\\' :: c :: cs =>
    if Regex.isSpecial c then c :: ofRegex cs else '\\' :: c :: ofRegex cs
  | '.' :: '*' :: cs => '*' :: ofRegex cs
  | '.' :: cs => '?' :: ofRegex cs
  | c :: cs => c :: ofRegex cs

/-- Words that leave their place unconstrained. -/
def isOpen (word : List Char) : Bool :=
  word == ['*'] || word == ['.', '*'] || word == ['[', ']']

end Wildcard

end Concordance
