import Concordance.Number
import Concordance.Snapshot.Basic
import Concordance.Console.Arguments

/-! The commands, with all that can be asked of each. -/

namespace Concordance.Console

structure QueryOptions where
  pattern : Option String
  filter : Option String
  group : Option String
  viewed : Option String
  gap : Option String
  deriving DecidableEq, Repr

structure SearchOptions where
  query : QueryOptions
  page : Int
  pageSize : Int
  sort : Option String
  viewGroup : Option String
  percentage : Option Binary64
  count : Option Int
  seed : Option Int
  wordsAroundHit : Option Int
  record : Bool
  splitBatch : Bool
  deriving DecidableEq, Repr

inductive Command
  | classify (query : QueryOptions)
  | decodeUrl (url : String) (asJson : Bool)
  | encodeUrl (search : SearchOptions)
  | history (limit : Int) (clear : Bool)
  | initConfig (output : Option String) (force : Bool)
  | parseFilter (text : String)
  | parsePattern (text : String) (default : Option String)
  | totals (url : String) (subcorpus : Bool)
  | help (names : List String)
  | usage (name : String)
  deriving DecidableEq, Repr

namespace Command

open Arguments (flag valued)

def helpSwitch : Switch := flag "help"

def querySwitches : List Switch :=
  [⟨"filter", some 'f', true⟩, ⟨"group", some 'g', true⟩, valued "view", valued "gap"]

def searchSwitches : List Switch :=
  querySwitches ++
    [valued "page", valued "page-size", valued "sort", valued "viewgroup", valued "sample",
      valued "sample-count", valued "seed", valued "context", flag "record", flag "split-batch"]

def switches : List (String × List Switch) :=
  [("classify", querySwitches),
   ("decode-url", [flag "json"]),
   ("encode-url", searchSwitches),
   ("help", []),
   ("history", [⟨"limit", some 'n', true⟩, flag "clear"]),
   ("init-config", [⟨"force", some 'f', false⟩, ⟨"output", some 'o', true⟩]),
   ("parse-filter", []),
   ("parse-pattern", [⟨"annotation", some 'a', true⟩]),
   ("totals", [flag "subcorpus"])]

def names : List String := switches.map (·.1)

def readAs {α : Type} (a : Arguments) (key : String) (read? : String → Option α) :
    Except Usage (Option α) :=
  match a.get? key with
  | none => .ok none
  | some value =>
    match read? value with
    | some x => .ok (some x)
    | none => .error (.invalidValue ("--" ++ key) value)

def atLeast (low : Int) (s : String) : Option Int :=
  (Numeral.integer? s.toList).filter fun i => low ≤ i

def upTo (high : Int) (s : String) : Option Int := (atLeast 0 s).filter fun i => i ≤ high

def percentage? (s : String) : Option Binary64 :=
  (Binary64.read? s.toList).filter fun x =>
    x == .nan || (Binary64.zero.le x && x.le (.ofNat 100))

def resultView? (s : String) : Option String := if s = hits ∨ s = docs then some s else none

def pageSize? (s : String) : Option Int :=
  GlobalSettings.pageSizes.find? fun n => Numeral.signed n = s.toList

def queryOf (a : Arguments) (pattern : Option String) : Except Usage QueryOptions := do
  let viewed ← readAs a "view" resultView?
  .ok ⟨pattern, a.get? "filter", a.get? "group", viewed, a.get? "gap"⟩

def searchOf (a : Arguments) (pattern : Option String) : Except Usage SearchOptions := do
  let query ← queryOf a pattern
  let page ← readAs a "page" (atLeast 0)
  let pageSize ← readAs a "page-size" pageSize?
  let percentage ← readAs a "sample" percentage?
  let count ← readAs a "sample-count" (atLeast 0)
  let seed ← readAs a "seed" fun s => Numeral.integer? s.toList
  let wordsAroundHit ← readAs a "context" (upTo 10)
  .ok
    { query
      page := page.getD 0
      pageSize := pageSize.getD GlobalSettings.defaultPageSize
      sort := a.get? "sort"
      viewGroup := a.get? "viewgroup"
      percentage
      count
      seed
      wordsAroundHit
      record := a.has "record"
      splitBatch := a.has "split-batch" }

def optionalArgument : List String → Except Usage (Option String)
  | [] => .ok none
  | [x] => .ok (some x)
  | _ :: x :: _ => .error (.unexpectedArgument x)

def noArgument : List String → Except Usage Unit
  | [] => .ok ()
  | x :: _ => .error (.unexpectedArgument x)

def argument (name : String) (args : List String) : Except Usage String := do
  match ← optionalArgument args with
  | some x => .ok x
  | none => .error (.missingArgument name)

def ofArguments (name : String) (a : Arguments) : Except Usage Command :=
  match name with
  | "classify" => do return .classify (← queryOf a (← optionalArgument a.rest))
  | "decode-url" => do return .decodeUrl (← argument "URL" a.rest) (a.has "json")
  | "encode-url" => do return .encodeUrl (← searchOf a (← optionalArgument a.rest))
  | "history" => do
    noArgument a.rest
    let limit ← readAs a "limit" (atLeast 1)
    return .history (limit.getD 20) (a.has "clear")
  | "init-config" => do
    noArgument a.rest
    return .initConfig (a.get? "output") (a.has "force")
  | "parse-filter" => do return .parseFilter (← argument "FILTER" a.rest)
  | "parse-pattern" => do
    return .parsePattern (← argument "PATTERN" a.rest) (a.get? "annotation")
  | "totals" => do return .totals (← argument "URL" a.rest) (a.has "subcorpus")
  | "help" => .ok (.help a.rest)
  | _ => .error (.unknownCommand name)

def read (name : String) (args : List String) : Except Usage Command :=
  match switches.find? (·.1 = name) with
  | none => .error (.unknownCommand name)
  | some (_, own) => do
    let a ← Arguments.read (helpSwitch :: own) true args
    if a.has "help" then .ok (.usage name) else ofArguments name a

end Command

end Concordance.Console
