import Concordance.Text.Pieces

/-! Command line arguments: options with and without values, in long and short spelling, and the
arguments between them. -/

namespace Concordance.Console

/-- An option with all its names, of which the first is its key. -/
structure Switch where
  key : String
  short : Option Char
  takesValue : Bool
  deriving DecidableEq, Repr

inductive Usage
  | unknownOption (name : String)
  | missingValue (name : String)
  | unexpectedValue (name : String)
  | invalidValue (name value : String)
  | missingCommand
  | unknownCommand (name : String)
  | missingArgument (name : String)
  | unexpectedArgument (value : String)
  deriving DecidableEq, Repr

def Usage.message : Usage → String
  | unknownOption name => s!"No such option: {name}"
  | missingValue name => s!"Option '{name}' requires an argument."
  | unexpectedValue name => s!"Option '{name}' does not take a value."
  | invalidValue name value => s!"Invalid value for '{name}': {value}"
  | missingCommand => "Missing command."
  | unknownCommand name => s!"No such command '{name}'."
  | missingArgument name => s!"Missing argument '{name}'."
  | unexpectedArgument value => s!"Got unexpected extra argument ({value})"

structure Arguments where
  options : List (String × String)
  rest : List String
  deriving DecidableEq, Repr

namespace Arguments

def empty : Arguments := ⟨[], []⟩

def flag (key : String) : Switch := ⟨key, none, false⟩

def valued (key : String) : Switch := ⟨key, none, true⟩

def valueOf (name : String) : List String → Except Usage (String × List String)
  | [] => .error (.missingValue name)
  | value :: args => .ok (value, args)

def long (switches : List Switch) (text : List Char) (args : List String) :
    Except Usage ((String × String) × List String) :=
  let (key, attached) := Text.cut '=' text
  let name := String.ofList ('-' :: '-' :: key)
  match switches.find? (·.key.toList = key), attached with
  | none, _ => .error (.unknownOption name)
  | some s, some value =>
    if s.takesValue then .ok ((s.key, String.ofList value), args)
    else .error (.unexpectedValue name)
  | some s, none =>
    if s.takesValue then (valueOf name args).map fun (value, args) => ((s.key, value), args)
    else .ok ((s.key, ""), args)

/-- Short options after one dash; the value of one may follow it at once. -/
def short (switches : List Switch) : List Char → List String →
    Except Usage (List (String × String) × List String)
  | [], args => .ok ([], args)
  | c :: cs, args =>
    let name := String.ofList ['-', c]
    match switches.find? (·.short = some c) with
    | none => .error (.unknownOption name)
    | some s =>
      if s.takesValue then
        if cs.isEmpty then (valueOf name args).map fun (value, args) => ([(s.key, value)], args)
        else .ok ([(s.key, String.ofList cs)], args)
      else (short switches cs args).map fun (found, args) => ((s.key, "") :: found, args)

/-- Reads arguments up to the end or to `--`. Unless they are `mixed`, options end with the first
argument that is none. -/
def scan (switches : List Switch) (mixed : Bool) : Nat → List String → Except Usage Arguments
  | 0, args => .ok ⟨[], args⟩
  | _, [] => .ok empty
  | n + 1, arg :: args =>
    match arg.toList with
    | ['-', '-'] => .ok ⟨[], args⟩
    | '-' :: '-' :: text => do
      let (found, args) ← long switches text args
      (scan switches mixed n args).map fun a => { a with options := found :: a.options }
    | '-' :: c :: cs => do
      let (found, args) ← short switches (c :: cs) args
      (scan switches mixed n args).map fun a => { a with options := found ++ a.options }
    | _ =>
      if mixed then (scan switches mixed n args).map fun a => { a with rest := arg :: a.rest }
      else .ok ⟨[], arg :: args⟩

def read (switches : List Switch) (mixed : Bool) (args : List String) : Except Usage Arguments :=
  scan switches mixed (args.length + 1) args

def get? (a : Arguments) (key : String) : Option String :=
  (a.options.reverse.find? (·.1 = key)).map (·.2)

def has (a : Arguments) (key : String) : Bool := (a.get? key).isSome

end Arguments

end Concordance.Console
