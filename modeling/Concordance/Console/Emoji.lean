import Concordance.Console.Emoji.Names
import Concordance.Numeral.Hex
import Concordance.Text.Blank
import Concordance.Text.Lower
import Concordance.Text.Pieces

/-! Signs that a text names between two colons, as in `:star:`. -/

namespace Concordance.Console.Emoji

def entries (lines : List String) : List (List Char × List Char) :=
  lines.flatMap fun line => (Text.words line.toList).flatMap fun entry =>
    let (code, names) := Text.cut ':' entry
    (Text.pieces ',' (names.getD [])).map (·, code)

/-- The characters of a code: numbers in hexadecimal with hyphens between them. -/
def ofCode (code : List Char) : List Char :=
  (Text.pieces '-' code).filterMap fun number => (Numeral.ofHex? number).map Char.ofNat

def ofRegion (letters : List Char) : List Char :=
  letters.map fun c => Char.ofNat (0x1f1e6 + (c.toNat - 'a'.toNat))

def inColor : Char := '\ufe0f'

def asText : Char := '\ufe0e'

def tones : List (String × Char) :=
  [("_light_skin_tone", '🏻'), ("_medium-light_skin_tone", '🏼'),
   ("_medium_skin_tone", '🏽'), ("_medium-dark_skin_tone", '🏾'),
   ("_dark_skin_tone", '🏿')]

/-- A tone stands after the first character, where color is not asked for any more. -/
def withTone (tone : Char) : List Char → List Char
  | [] => []
  | c :: cs => c :: tone :: if cs.head? = some inColor then cs.drop 1 else cs

def withoutEnd? (ending : String) (cs : List Char) : Option (List Char) :=
  (ending.toList.reverse.isPrefixOf? cs.reverse).map List.reverse

def persons : List (List Char × List Char) := entries personNames

def person? (name : List Char) : Option (List Char) :=
  ((persons.lookup name).map ofCode).or <|
    tones.findSome? fun (ending, tone) =>
      (withoutEnd? ending name).bind fun person =>
        (persons.lookup person).map fun code => withTone tone (ofCode code)

def flags : List (List Char × List Char) := entries flagNames

def flag? (name : List Char) : Option (List Char) :=
  (flags.lookup (("flag_for_".toList.isPrefixOf? name).getD name)).map ofRegion

def signs : List (List Char × List Char) := entries signNames

def ofName? (name : List Char) : Option (List Char) :=
  (((signs.lookup name).map ofCode).or (person? name)).or (flag? name)

def sign? (text : List Char) : Option (List Char) :=
  let ofName? name := ofName? (Text.lower name)
  match withoutEnd? "-emoji" text, withoutEnd? "-text" text with
  | some name, _ => (ofName? name).map (· ++ [inColor])
  | none, some name => (ofName? name).map (· ++ [asText])
  | none, none => ofName? text

/-- Signs in place of their names. `some name` is what has been read since a colon, backwards. A
name that is not known stays, and its second colon starts no other. -/
def replaceFrom : Option (List Char) → List Char → List Char
  | none, [] => []
  | some name, [] => ':' :: name.reverse
  | none, c :: cs => if c = ':' then replaceFrom (some []) cs else c :: replaceFrom none cs
  | some name, c :: cs =>
    if c = ':' then
      (sign? name.reverse).getD (':' :: name.reverse ++ [':']) ++ replaceFrom none cs
    else if Text.isBlank c then ':' :: name.reverse ++ c :: replaceFrom none cs
    else replaceFrom (some (c :: name)) cs

def replace (cs : List Char) : List Char := replaceFrom none cs

end Concordance.Console.Emoji
