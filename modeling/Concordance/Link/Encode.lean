import Concordance.Url.Query
import Concordance.Json.Printer
import Concordance.Snapshot.Parameters

/-! The web address of a snapshot: the backend query, the form and view shown, and how groups are
displayed. -/

namespace Concordance

structure Site where
  settings : Settings
  basePath : String
  maxLength : Int
  deriving DecidableEq, Repr

/-- An address and what it is made of; it is truncated if its pattern was dropped. -/
structure Link where
  url : String
  path : String
  params : List (String × String)
  truncated : Bool
  deriving DecidableEq, Repr

namespace Link

inductive Refusal
  | unusable (e : Unusable)
  | numberTooLong
  deriving DecidableEq, Repr

/-- An integral number is written without a point. -/
def numberText? : Number → Option (List Char)
  | .float x =>
    if x.isIntegral then x.truncate?.map Numeral.signed else some (Binary64.render .plain x)
  | .int i => if (Numeral.decimal i.natAbs).length ≤ Numeral.maxDigits then
      some (Numeral.signed i) else none

def parameterText? : Parameter → Option String
  | .text s => some s
  | .number n => (numberText? n).map String.ofList

def texts? : List (String × Option Parameter) → Option (List (String × String))
  | [] => some []
  | (_, none) :: ps => texts? ps
  | (name, some p) :: ps => do
    let text ← parameterText? p
    let rest ← texts? ps
    some (if text.isEmpty then rest else (name, text) :: rest)

def interfaceText (m : Mode) : String :=
  let key := match m.form with
    | .search => "patternMode"
    | .explore => "exploreMode"
  String.ofList (Json.compact (.obj [("form", .str m.form.name), (key, .str m.name)]))

def join (path : List Char) (params : List (String × String)) : List Char :=
  if params.isEmpty then path else path ++ '?' :: Url.queryText params

def isDroppable (name : String) : Bool := name == "patt" || name == "pattgapdata"

end Link

namespace Site

def page (site : Site) : String := String.ofList (Text.trimEnd (· == '/') site.basePath.toList)

def root (site : Site) : List Char := site.page.toList ++ ['/']

def params (site : Site) (x : Snapshot) : Except Link.Refusal (List (String × String)) := do
  let search ← (x.parameters site.settings).mapError .unusable
  match Link.texts? ((search.map Parameters.pairs).getD []) with
  | none => .error .numberTooLong
  | some texts =>
    let interface := x.view.toList.map fun v => ("interface", Link.interfaceText v.mode)
    let display := match x.viewed, x.results.displayMode with
      | some _, some d => if d.isEmpty then [] else [("groupDisplayMode", d)]
      | _, _ => []
    .ok (texts ++ interface ++ display)

/-- The pattern is dropped if the address would be longer than the site allows. -/
def encode (site : Site) (x : Snapshot) : Except Link.Refusal Link := do
  let params ← site.params x
  let path := site.root ++ (x.viewed.getD "").toList
  let url := Link.join path params
  if (url.length : Int) ≤ site.maxLength then
    .ok ⟨String.ofList url, String.ofList path, params, false⟩
  else
    let kept := params.filter fun p => !Link.isDroppable p.1
    .ok ⟨String.ofList (Link.join path kept), String.ofList path, kept, true⟩

end Site

end Concordance
