import Concordance.FilePath
import Concordance.History
import Concordance.Backend.Clock
import Concordance.Console.Screen

/-! What commands work on: text files and histories under their absolute paths, the replies that
the backend will give, and what has been shown so far. -/

namespace Concordance.Console

structure Place where
  homes : Homes
  directory : FilePath
  time : String

structure Desk where
  files : Keyed String
  histories : Keyed (List History.Entry)
  script : List Backend.Planned
  shown : List Shown
  echo : String

/-- How deeply what a command reads may be nested. -/
def depth : Nat := 980

/-- A command works on the desk until it stops with an exit code. -/
abbrev Session (α : Type) := ExceptT Nat (StateM Desk) α

namespace Exit

def success : Nat := 0

/-- Also the code of a command that breaks off without a word. -/
def refused : Nat := 1

def misread : Nat := 2

def backendFailed : Nat := 3

end Exit

namespace Session

def stop {α : Type} (code : Nat) : Session α := throw code

def put (stream : Stream) (item : Option Item) : Session Unit :=
  match item with
  | some item => modify fun d => { d with shown := d.shown ++ [(stream, item)] }
  | none => stop Exit.refused

def out (item : Option Item) : Session Unit := put .out item

def echo (text : String) : Session Unit := modify fun d => { d with echo := d.echo ++ text }

def info (message : String) : Session Unit := out (Item.line? s!"[info]{message}[/info]")

def success (message : String) : Session Unit := out (Item.line? s!"[success]{message}[/success]")

def warning (message : String) : Session Unit :=
  put .err (Item.line? s!"[warning]Warning:[/warning] {message}")

def error (message : String) (hint : Option String) : Session Unit := do
  put .err (Item.line? s!"[error]Error:[/error] {message}")
  match hint with
  | some hint => put .err (Item.line? s!"  [info]Hint:[/info] {hint}")
  | none => pure ()

def fail {α : Type} (code : Nat) (message : String) (hint : Option String) : Session α := do
  error message hint
  stop code

end Session

namespace Desk

def empty : Desk := ⟨∅, ∅, [], [], ""⟩

def paths (d : Desk) : List FilePath := (d.files.keys ++ d.histories.keys).map FilePath.read

/-- Whether a path is a directory: one that leads to a file, or to where the commands are given. -/
def isDirectory (d : Desk) (place : Place) (p : FilePath) : Bool :=
  p = place.directory || (place.directory :: d.paths).any p.leadsTo

def holds (d : Desk) (place : Place) (p : FilePath) : Bool :=
  d.files.contains p.render || d.histories.contains p.render || d.isDirectory place p

/-- Whether a file can stand at a path: it is no directory, and no file is on the way to it. -/
def admits (d : Desk) (place : Place) (p : FilePath) : Bool :=
  !d.isDirectory place p && !d.paths.any (·.leadsTo p)

end Desk

end Concordance.Console
