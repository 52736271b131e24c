import Concordance.Text.Pieces

/-! Names of files: a root, if they have one, and the parts below it. -/

namespace Concordance

/-- The root is empty for a relative path, and otherwise one slash or two. -/
structure FilePath where
  root : String
  parts : List String
  deriving DecidableEq, Repr

/-- The home directories of users, by name; the empty name is the user who asks. -/
abbrev Homes := String → Option String

namespace FilePath

/-- Exactly two slashes at the start are kept; more are the same as one. -/
def rootOf : List Char → String
  | '/' :: '/' :: '/' :: _ => "/"
  | '/' :: '/' :: _ => "//"
  | '/' :: _ => "/"
  | _ => ""

/-- Empty parts and points say nothing. -/
def isPart (p : List Char) : Bool := !p.isEmpty && p != ['.']

def read (text : String) : FilePath :=
  let cs := text.toList
  ⟨rootOf cs, ((Text.pieces '/' cs).filter isPart).map String.ofList⟩

def render (p : FilePath) : String :=
  let below := Text.joined '/' (p.parts.map String.toList)
  if p.root.isEmpty && below.isEmpty then "." else String.ofList (p.root.toList ++ below)

def append (p : FilePath) (parts : List String) : FilePath := { p with parts := p.parts ++ parts }

/-- A relative path that starts with `~` and the name of a user starts in the home of that user. -/
def expand? (homes : Homes) (p : FilePath) : Option FilePath :=
  match p.parts with
  | [] => some p
  | first :: rest =>
    match p.root.isEmpty, first.toList with
    | true, '~' :: user => (homes (String.ofList user)).map fun home => (read home).append rest
    | _, _ => some p

/-- Two points go one directory up; above the root there is nothing. -/
def climb (above : List String) (part : String) : List String :=
  if part = ".." then above.dropLast else above ++ [part]

def resolve (p directory : FilePath) : FilePath :=
  ⟨"/", (if p.root.isEmpty then directory.parts ++ p.parts else p.parts).foldl climb []⟩

/-- A name has at most 255 bytes, none of them zero, and all of a path has less than 4096. -/
def isNameable (p : FilePath) : Bool :=
  p.parts.all (fun part => part.utf8ByteSize ≤ 255 && !part.toList.contains '\x00') &&
    p.render.utf8ByteSize < 4096

def leadsTo (p q : FilePath) : Bool := p.parts.isPrefixOf q.parts && p.parts.length < q.parts.length

end FilePath

end Concordance
