import Concordance.History.Json
import Concordance.Console.Interpreter

/-! The command line. Files are read before a command runs and written after it; the replies of
the backend are read from the standard input, one a line. -/

namespace Concordance.Console

def readText? (path : FilePath) : IO (Option String) := do
  try return some (← IO.FS.readFile path.render)
  catch _ => return none

def writeText (path text : String) : IO Unit := do
  let parent : FilePath := { FilePath.read path with parts := (FilePath.read path).parts.dropLast }
  IO.FS.createDirAll parent.render
  IO.FS.writeFile path text

def namedFiles (place : Place) (args : List String) : List FilePath :=
  let named (given : Option String) := match (pathOf place given).run.run Desk.empty with
    | (.ok path, _) => [path]
    | (.error _, _) => []
  match Arguments.read commonSwitches false args with
  | .error _ => []
  | .ok common =>
    let written := match common.rest with
      | name :: own =>
        match Command.read name own with
        | .ok (.initConfig output _) => named output
        | _ => []
      | [] => []
    named (common.get? "config") ++ written

def readFiles (paths : List FilePath) : IO (Keyed String) :=
  paths.foldlM (fun files path => do
    return (← readText? path).elim files (files.insert path.render)) ∅

def historyFile? (place : Place) (path : FilePath) (files : Keyed String) : Option FilePath :=
  match Config.load limits place.homes path.render (files.get? path.render) with
  | .ok (c, _) => some (c.historyPath.resolve place.directory)
  | .error _ => none

def readHistory (path : FilePath) : IO (Keyed (List History.Entry)) := do
  match (← readText? path).bind History.load? with
  | some entries => return Keyed.ofList [(path.render, entries)]
  | none => return ∅

partial def readReplies (input : IO.FS.Stream) : IO (List Backend.Planned) := do
  let line ← input.getLine
  if line.isEmpty then return []
  match Json.read? line.toList with
  | some reply => return ⟨0, .ok reply⟩ :: (← readReplies input)
  | none => readReplies input

def rowText (cells : List String) : String := "  ".intercalate cells

def Item.lines : Item → List String
  | .line text => [text]
  | .table title columns rows =>
    title.toList ++ (if columns.all (·.isEmpty) then [] else [rowText columns]) ++ rows.map rowText

def printShown (s : Shown) : IO Unit :=
  for line in s.2.lines do
    match s.1 with
    | .out => IO.println line
    | .err => IO.eprintln line

end Concordance.Console

open Concordance Concordance.Console in
def main (args : List String) : IO UInt32 := do
  let home ← IO.getEnv "HOME"
  let directory ← IO.currentDir
  let place : Place :=
    ⟨fun user => if user.isEmpty then home else none, FilePath.read directory.toString, ""⟩
  let paths := namedFiles place args
  let files ← readFiles paths
  let histories ← match paths.head?.bind fun path => historyFile? place path files with
    | some path => readHistory path
    | none => pure ∅
  let script ← if args.contains "totals" then readReplies (← IO.getStdin) else pure []
  let (code, desk) := run place { Desk.empty with files, histories, script } args
  IO.print desk.echo
  for s in desk.shown do printShown s
  for (path, text) in desk.files.entries do
    if files.get? path ≠ some text then writeText path text
  for (path, entries) in desk.histories.entries do
    if histories.get? path ≠ some entries then writeText path (History.save entries)
  return code.toUInt32
