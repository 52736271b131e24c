import Concordance.Config.Load
import Concordance.Console.Example
import Concordance.Console.Queries

/-! Command lines: options for all commands, then a command with options of its own. The
configuration is loaded after the command is found and before its own arguments are read. -/

namespace Concordance.Console

open Session
open Arguments (flag)

def version : String := "0.1.0"

def commonSwitches : List Switch :=
  [⟨"config", some 'c', true⟩, flag "no-color", ⟨"verbose", some 'v', false⟩, flag "debug",
    ⟨"quiet", some 'q', false⟩, flag "version", Command.helpSwitch]

def stopMisused {α : Type} (u : Usage) : Session α := fail Exit.misread u.message none

def orMisused {α : Type} (r : Except Usage α) : Session α :=
  match r with
  | .ok a => return a
  | .error u => stopMisused u

def pathOf (place : Place) (text : Option String) : Session FilePath := do
  let default := (FilePath.read "~").append Config.configParts
  match ((text.map FilePath.read).getD default).expand? place.homes with
  | some path =>
    let path := path.resolve place.directory
    if path.isNameable then return path else stop Exit.refused
  | none => stop Exit.refused

def limits : Config.Limits := ⟨depth, depth⟩

def loadConfig (place : Place) (path : FilePath) (quiet : Bool) : Session Config := do
  let desk ← get
  let text := desk.files.get? path.render
  if text.isNone && desk.holds place path then stop Exit.refused
  else
    match Config.load limits place.homes path.render text with
    | .ok (c, warnings) =>
      if !quiet then
        for w in warnings do warning w.message
      return c
    | .error (.unreadable .malformed) =>
      let reason := (Config.Failure.unreadable .malformed).message
      fail Exit.refused s!"Invalid config at {path.render}: {reason}" none
    | .error (.invalid key r) => fail Exit.refused (Config.Failure.invalid key r).message none
    | .error _ => stop Exit.refused

def initConfig (place : Place) (output : Option String) (force : Bool) : Session Unit := do
  let path ← pathOf place output
  let desk ← get
  if desk.holds place path && !force then
    fail Exit.refused s!"Config file already exists: {path.render}"
      (some "Use --force to overwrite")
  else if desk.isDirectory place path then
    let name := String.ofList (Text.literal path.render.toList)
    fail Exit.refused s!"Failed to write config file: [Errno 21] Is a directory: {name}" none
  else if !desk.admits place path then stop Exit.refused
  else
    set { desk with files := desk.files.insert path.render exampleConfig }
    success s!"Created config file: {path.render}"
    info "Edit this file to describe your corpus and backend."

def help (names : List String) : Session Unit :=
  match names with
  | [] => echo ("Commands: " ++ ", ".intercalate Command.names ++ "\n")
  | name :: _ =>
    if Command.names.contains name then echo s!"Usage: corpus-query {name} [OPTIONS]\n"
    else fail Exit.refused s!"Unknown command: {name}" none

def perform (place : Place) (c : Config) (verbose : Bool) : Command → Session Unit
  | .classify query => classifyQuery c verbose query
  | .decodeUrl url asJson => decodeUrl c url asJson
  | .encodeUrl search => encodeUrl place c search
  | .history limit clear => showHistory place c limit clear
  | .initConfig output force => initConfig place output force
  | .parseFilter text => parseFilter c text
  | .parsePattern text default => parsePattern c text default
  | .totals url subcorpus => showCount c url subcorpus
  | .help names => help names
  | .usage name => help [name]

def aboutProgram? (a : Arguments) : Option String :=
  (a.options.map (·.1)).find? fun key => key == "version" || key == "help"

def interpret (place : Place) (args : List String) : Session Unit := do
  let common ← orMisused (Arguments.read commonSwitches false args)
  match aboutProgram? common with
  | some "version" => echo s!"corpus-query, version {version}\n"
  | some _ => help []
  | none =>
    match common.rest with
    | [] => stopMisused .missingCommand
    | name :: own =>
      if !Command.names.contains name then stopMisused (.unknownCommand name)
      else
        let path ← pathOf place (common.get? "config")
        let c ← loadConfig place path (common.has "quiet")
        let command ← orMisused (Command.read name own)
        perform place c (common.has "verbose" || common.has "debug") command

/-- What a command line leads to: its exit code and the desk as it leaves it. Nothing has been
shown before. -/
def run (place : Place) (desk : Desk) (args : List String) : Nat × Desk :=
  match ((interpret place args).run.run { desk with shown := [], echo := "" }) with
  | (.ok _, desk) => (Exit.success, desk)
  | (.error code, desk) => (code, desk)

end Concordance.Console
