import Concordance.Numeral.Digit
import Concordance.Numeral.Hex
import Concordance.Text.Pieces

/-! Hosts of web addresses. A number in place of a name stands in brackets: groups of hexadecimal
digits with colons between them, or a form that starts with `v` and is left to later versions. -/

namespace Concordance.Url

def isHexDigit (c : Char) : Bool := (Numeral.hexValue? c).isSome

/-- Sixteen bits in at most four hexadecimal digits. -/
def isGroup (cs : List Char) : Bool := !cs.isEmpty && cs.length ≤ 4 && cs.all isHexDigit

/-- Eight bits in decimal, without a zero in front. -/
def isByte (cs : List Char) : Bool :=
  cs.all Char.isDigit && (cs = ['0'] || (cs.head?.any (· != '0') && cs.length ≤ 3 &&
    Numeral.ofDigits (cs.map (·.toNat - 48)) ≤ 255))

def isDottedQuad (cs : List Char) : Bool :=
  let bytes := Text.pieces '.' cs
  bytes.length == 4 && bytes.all isByte

/-- How many groups are written. The last two may be a dotted quad. -/
def groupCount? : List (List Char) → Option Nat
  | [] => some 0
  | [g] => if isGroup g then some 1 else if isDottedQuad g then some 2 else none
  | g :: gs => if isGroup g then (groupCount? gs).map (· + 1) else none

def groups (cs : List Char) : List (List Char) := if cs.isEmpty then [] else Text.pieces ':' cs

def cutGap : List Char → List Char × Option (List Char)
  | [] => ([], none)
  | ':' :: ':' :: cs => ([], some cs)
  | c :: cs => let (before, after) := cutGap cs; (c :: before, after)

/-- Eight groups; one pair of colons may stand for any number of them that are zero. -/
def isNumbered (cs : List Char) : Bool :=
  match cutGap cs with
  | (all, none) => groupCount? (groups all) == some 8
  | (before, some after) =>
    (groups before).all isGroup &&
      (groupCount? (groups after)).any ((groups before).length + · ≤ 7)

def isZoned (cs : List Char) : Bool :=
  match Text.cut '%' cs with
  | (number, none) => isNumbered number
  | (number, some zone) => !zone.isEmpty && !zone.contains '%' && isNumbered number

/-- A number of a later version: the version in hexadecimal, a point and some text. -/
def isLater (cs : List Char) : Bool :=
  match Text.cut '.' cs with
  | (version, some text) => !version.isEmpty && version.all isHexDigit && !text.isEmpty
  | (_, none) => false

def isNumber : List Char → Bool
  | 'v' :: cs => isLater cs
  | cs => isZoned cs

def afterLast (sep : Char) (cs : List Char) : List Char := ((Text.pieces sep cs).getLast?).getD cs

/-- Whether a host with brackets has a number in them, with at most a user before and a port after
the brackets. -/
def isBracketed (host : List Char) : Bool :=
  match Text.cut '[' (afterLast '@' host) with
  | ([], some inside) =>
    let (number, port) := Text.cut ']' inside
    (port.getD []).head?.all (· == ':') && isNumber number
  | (_, some _) => false
  | (name, none) => isNumber (Text.cut ':' name).1

/-- Characters whose compatibility form holds one of the signs that delimit a host. -/
def disguised : List Nat :=
  [0x2047, 0x2048, 0x2049, 0x2100, 0x2101, 0x2105, 0x2106, 0x2a74, 0xfe13, 0xfe16, 0xfe55, 0xfe56,
   0xfe5f, 0xfe6b, 0xff03, 0xff0f, 0xff1a, 0xff1f, 0xff20]

def isHost (host : List Char) : Bool :=
  (host.contains '[' == host.contains ']') && (!host.contains '[' || isBracketed host) &&
    !host.any fun c => disguised.contains c.toNat

end Concordance.Url
