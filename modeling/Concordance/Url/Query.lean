import Concordance.Keyed
import Concordance.Text.Pieces
import Concordance.Url.Percent

/-! The query of a web address as named values. -/

namespace Concordance.Url

def pairText (p : String × String) : List Char :=
  encode p.1.toList ++ '=' :: encode p.2.toList

def queryText (params : List (String × String)) : List Char :=
  Text.joined '&' (params.map pairText)

/-- A name without an equals sign has the empty value; empty pieces say nothing. -/
def pair? (piece : List Char) : Option (String × String) :=
  if piece.isEmpty then none
  else
    let (name, value) := Text.cut '=' piece
    some (String.ofList (decodeForm name), String.ofList (decodeForm (value.getD [])))

def pairs (query : List Char) : List (String × String) := (Text.pieces '&' query).filterMap pair?

/-- Names that are given several times are ambiguous and dropped. -/
def once (ps : List (String × String)) : List (String × String) :=
  ps.filter fun p => (ps.filter (·.1 = p.1)).length == 1

def value? (ps : List (String × String)) (name : String) : Option String :=
  ((once ps).find? (·.1 = name)).map (·.2)

end Concordance.Url
