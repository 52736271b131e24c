/-! Names: a letter of ASCII or an underscore, and more characters of a class after it. -/

namespace Concordance.Text

def isNameStart (c : Char) : Bool := c.isAlpha || c == '_'

def isNameChar (c : Char) : Bool := c.isAlphanum || c == '_' || c == '-'

def name? (more : Char → Bool) : List Char → Option (List Char × List Char)
  | [] => none
  | c :: cs => if isNameStart c then some (c :: cs.takeWhile more, cs.dropWhile more) else none

end Concordance.Text
