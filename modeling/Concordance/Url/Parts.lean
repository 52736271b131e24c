import Concordance.Url.Host
import Concordance.Url.Percent

/-! Splitting a web address into its parts. -/

namespace Concordance.Url

structure Parts where
  path : List Char
  query : List Char
  deriving DecidableEq, Repr

def isDropped (c : Char) : Bool := c == '\t' || c == '\r' || c == '\n'

/-- An address without the control characters and spaces it starts with; tabs and line ends are
ignored anywhere. -/
def cleaned (url : List Char) : List Char :=
  (url.dropWhile fun c => c.toNat ≤ 0x20).filter (!isDropped ·)

def isSchemeChar (c : Char) : Bool := c.isAlphanum || c == '+' || c == '-' || c == '.'

def withoutScheme (cs : List Char) : List Char :=
  match Text.cut ':' cs with
  | (c :: scheme, some rest) => if c.isAlpha && scheme.all isSchemeChar then rest else cs
  | _ => cs

def endsHost (c : Char) : Bool := c == '/' || c == '?' || c == '#'

def host : List Char → List Char × List Char
  | '/' :: '/' :: cs => cs.span (!endsHost ·)
  | cs => ([], cs)

def split? (url : List Char) : Option Parts :=
  let (host, rest) := host (withoutScheme (cleaned url))
  if isHost host then
    let (path, query) := Text.cut '?' (Text.cut '#' rest).1
    some ⟨path, query.getD []⟩
  else none

/-- An address that cannot be split says nothing. -/
def split (url : List Char) : Parts := (split? url).getD ⟨[], []⟩

def segments (path : List Char) : List (List Char) :=
  ((Text.pieces '/' path).filter (!·.isEmpty)).map decode

end Concordance.Url
