import Concordance.Text.Blank
import Concordance.Text.Name
import Concordance.Text.Quoted

/-! Filter texts as lists of clauses. Values are kept as written: how they are unescaped depends
on the field. -/

namespace Concordance.Filter

structure Clause where
  field : String
  values : List String
  required : Bool
  isRange : Bool
  deriving DecidableEq, Repr

structure Error where
  text : String
  deriving DecidableEq, Repr

namespace Reader

open Text (skip isNameChar name?)

def isFieldChar (c : Char) : Bool := isNameChar c || c == '.'

def isBareChar (c : Char) : Bool :=
  !(Text.isBlank c || ['"', '(', ')', '[', ']', '\\', ':'].contains c)

/-- As much of a bare value as there is. A backslash takes the next character with it, unless
that is a line feed. -/
def bareRun : List Char → List Char × List Char
  | [] => ([], [])
  | [c] => if isBareChar c then ([c], []) else ([], [c])
  | c :: d :: cs =>
    if c = '\\' then
      if d = '\n' then ([], c :: d :: cs)
      else let (s, r) := bareRun cs; (c :: d :: s, r)
    else if isBareChar c then let (s, r) := bareRun (d :: cs); (c :: s, r)
    else ([], c :: d :: cs)

/-- A bare value does not start with `+`. -/
def bare? : List Char → Option (List Char × List Char)
  | '+' :: _ => none
  | cs =>
    match bareRun cs with
    | ([], _) => none
    | found => some found

inductive Term
  | quoted (s : List Char)
  | bare (s : List Char)
  deriving DecidableEq, Repr

def Term.value : Term → String
  | quoted s | bare s => String.ofList s

/-- Alternatives are joined by `or` anyway, so the bare word says nothing. -/
def Term.isOr : Term → Bool
  | bare s => s == ['O', 'R']
  | quoted _ => false

def term? : List Char → Option (Term × List Char)
  | '"' :: cs => (Quoted.inside? '"' cs).map fun (s, r) => (.quoted s, r)
  | cs => (bare? cs).map fun (s, r) => (.bare s, r)

def terms? : Nat → List Char → Option (List Term × List Char)
  | 0, _ => none
  | n + 1, cs => do
    let (t, r) ← term? cs
    match skip r with
    | ')' :: r => some ([t], r)
    | r =>
      let (ts, r) ← terms? n r
      some (t :: ts, r)

def range? (cs : List Char) : Option ((List Char × List Char) × List Char) := do
  let (low, r) ← bare? cs
  match skip r with
  | 'T' :: 'O' :: r =>
    let (high, r) ← bare? (skip r)
    match skip r with
    | ']' :: r => some ((low, high), r)
    | _ => none
  | _ => none

def value? : List Char → Option ((List String × Bool) × List Char)
  | '(' :: r => do
    let (ts, r) ← terms? r.length.succ (skip r)
    some (((ts.filter (!·.isOr)).map Term.value, false), r)
  | '[' :: r => do
    let ((low, high), r) ← range? (skip r)
    some (([String.ofList low, String.ofList high], true), r)
  | cs => do
    let (t, r) ← term? cs
    some (([t.value], false), r)

def required : List Char → Bool × List Char
  | '+' :: r => (true, r)
  | r => (false, r)

def clause? (cs : List Char) : Option (Clause × List Char) := do
  let (mandatory, r) := required cs
  let (name, r) ← name? isFieldChar (skip r)
  match skip r with
  | ':' :: r =>
    let ((values, isRange), r) ← value? (skip r)
    some (⟨String.ofList name, values, mandatory, isRange⟩, r)
  | _ => none

def clauses? : Nat → List Char → Option (List Clause)
  | 0, _ => none
  | n + 1, cs =>
    match skip cs with
    | [] => some []
    | cs => do
      let (c, r) ← clause? cs
      let rest ← clauses? n r
      some (c :: rest)

end Reader

/-- The clauses in the order written; blank text has none. -/
def parse (text : String) : Except Error (List Clause) :=
  let cs := Text.trim text.toList
  match Reader.clauses? (cs.length + 1) cs with
  | some clauses => .ok clauses
  | none => .error ⟨String.ofList cs⟩

end Concordance.Filter
