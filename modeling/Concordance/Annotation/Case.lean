/-! Marks at the start of a regular expression that make it distinguish capitals. -/

namespace Concordance.CaseMark

def written : List Char := ['(', '?', '-', 'i', ')']

def understood : List Char := ['(', '?', 'c', ')']

def strip? (regex : List Char) : Option (List Char) :=
  match written.isPrefixOf? regex with
  | some r => some r
  | none => understood.isPrefixOf? regex

def isMarked (regex : List Char) : Bool := (strip? regex).isSome

def strip (regex : List Char) : List Char := (strip? regex).getD regex

def mark (caseSensitive : Bool) (regex : List Char) : List Char :=
  if caseSensitive then written ++ regex else regex

end Concordance.CaseMark
