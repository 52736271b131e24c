import Concordance.Text.Escape

/-! Quoted texts. A backslash takes the next character with it; only the escape of the quote itself
is undone, all others belong to the text. -/

namespace Concordance.Quoted

def quote (cs : List Char) : List Char := '"' :: Text.escape (· == '"') cs ++ ['"']

def unescape (mark : Char) : List Char → List Char := Text.unescape (· == mark)

/-- The first character is taken for the quote, and the last one is dropped. -/
def unquote? : List Char → Option (List Char)
  | [] => none
  | mark :: cs => some (unescape mark cs.dropLast)

/-- The inside of a literal, as it is written, and what follows its closing quote. No backslash
stands before a line feed or at the end. -/
def inside? (mark : Char) : List Char → Option (List Char × List Char)
  | [] => none
  | '\\' :: c :: cs =>
    if c = '\n' then none else (inside? mark cs).map fun (s, r) => ('\\' :: c :: s, r)
  | c :: cs =>
    if c = mark then some ([], cs)
    else if c = '\\' then none
    else (inside? mark cs).map fun (s, r) => (c :: s, r)

def literal? : List Char → Option (List Char × List Char)
  | '"' :: cs => (inside? '"' cs).map fun (s, r) => (unescape '"' s, r)
  | '\'' :: cs => (inside? '\'' cs).map fun (s, r) => (unescape '\'' s, r)
  | _ => none

end Concordance.Quoted
