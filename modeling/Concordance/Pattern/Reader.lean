import Concordance.Text.Blank
import Concordance.Text.Name
import Concordance.Text.Quoted
import Concordance.Numeral.Integer
import Concordance.Pattern.Basic

/-! Reading token patterns. Words of the language are as long as they can be, and blanks may stand
between any two of them. -/

namespace Concordance.Pattern

inductive Refusal
  | syntaxError
  | countTooLong
  | invertedRepeat (least most : Int)
  deriving DecidableEq, Repr

structure Error where
  text : String
  cause : Refusal
  deriving DecidableEq, Repr

def Error.message (e : Error) : Option String :=
  match e.cause with
  | .invertedRepeat least most =>
    some (s!"Failed to parse token pattern '{e.text}': " ++
      s!"repetition maximum {most} is smaller than minimum {least}")
  | _ => none

namespace Reader

open Text (skip isNameChar name?)

def isTagChar (c : Char) : Bool := isNameChar c || c == ':' || c == '.'

def comparison? : List Char → Option (String × List Char)
  | '!' :: '=' :: r => some ("!=", r)
  | '=' :: r => some ("=", r)
  | _ => none

def conjunctionMark? : List Char → Option (List Char)
  | '&' :: r => some r
  | 'A' :: 'N' :: 'D' :: r => some r
  | _ => none

def disjunctionMark? : List Char → Option (List Char)
  | '|' :: r => some r
  | 'O' :: 'R' :: r => some r
  | _ => none

def attribute? (cs : List Char) : Option (Attribute × List Char) := do
  let (name, r) ← name? isNameChar cs
  let (operator, r) ← comparison? (skip r)
  let (value, r) ← Quoted.literal? (skip r)
  some (⟨String.ofList name, operator, String.ofList value⟩, r)

mutual

def unary : Nat → List Char → Option (Condition × List Char)
  | 0, _ => none
  | n + 1, cs =>
    match cs with
    | '!' :: r => do
      let (e, r) ← unary n (skip r)
      some (.negation e, r)
    | '(' :: r => do
      let (e, r) ← disjunction n (skip r)
      match skip r with
      | ')' :: r => some (e, r)
      | _ => none
    | cs => do
      let (a, r) ← attribute? cs
      some (.attribute a, r)

def conjunction : Nat → List Char → Option (Condition × List Char)
  | 0, _ => none
  | n + 1, cs => do
    let (e, r) ← unary n cs
    conjuncts n e r

def conjuncts : Nat → Condition → List Char → Option (Condition × List Char)
  | 0, _, _ => none
  | n + 1, left, cs =>
    match conjunctionMark? (skip cs) with
    | some r => do
      let (e, r) ← unary n (skip r)
      conjuncts n (.binary "&" left e) r
    | none => some (left, cs)

def disjunction : Nat → List Char → Option (Condition × List Char)
  | 0, _ => none
  | n + 1, cs => do
    let (e, r) ← conjunction n cs
    disjuncts n e r

def disjuncts : Nat → Condition → List Char → Option (Condition × List Char)
  | 0, _, _ => none
  | n + 1, left, cs =>
    match disjunctionMark? (skip cs) with
    | some r => do
      let (e, r) ← conjunction n (skip r)
      disjuncts n (.binary "|" left e) r
    | none => some (left, cs)

end

/-- Every step down takes at most three levels for one character. -/
def condition? (cs : List Char) : Option (Condition × List Char) :=
  disjunction (3 * cs.length + 3) cs

inductive Mark
  | none
  | optional
  | star
  | plus
  | exactly (count : List Char)
  | between (least : List Char) (most : Option (List Char))
  deriving DecidableEq, Repr

def count? (cs : List Char) : Option (List Char × List Char) :=
  match cs.span Char.isDigit with
  | ([], _) => .none
  | found => some found

def mark? : List Char → Option (Mark × List Char)
  | '?' :: r => some (.optional, r)
  | '*' :: r => some (.star, r)
  | '+' :: r => some (.plus, r)
  | '\x7b' :: r => do
    let (least, r) ← count? (skip r)
    match skip r with
    | '\x7d' :: r => some (.exactly least, r)
    | ',' :: r =>
      match skip r with
      | '\x7d' :: r => some (.between least .none, r)
      | r =>
        let (most, r) ← count? r
        match skip r with
        | '\x7d' :: r => some (.between least (some most), r)
        | _ => .none
    | _ => .none
  | r => some (.none, r)

def tag? (cs : List Char) : Option (String × List Char) := do
  let (name, r) ← name? isTagChar (skip cs)
  match skip r with
  | '>' :: r => some (String.ofList name, r)
  | _ => none

def leading? : List Char → Option (Option String × List Char)
  | '<' :: r => (tag? r).map fun (name, r) => (some name, r)
  | r => some (none, r)

def trailing? : List Char → Option (Option String × List Char)
  | '<' :: '/' :: r => (tag? r).map fun (name, r) => (some name, r)
  | r => some (none, r)

def body? (default : String) : List Char → Option (Option Condition × List Char)
  | '[' :: r =>
    match skip r with
    | ']' :: r => some (none, r)
    | r => do
      let (e, r) ← condition? r
      match skip r with
      | ']' :: r => some (some e, r)
      | _ => none
  | cs => do
    let (value, r) ← Quoted.literal? cs
    some (some (.attribute ⟨default, "=", String.ofList value⟩), r)

/-- A token whose repetition is still to be settled. -/
structure Draft where
  leadingTag : Option String
  condition : Option Condition
  mark : Mark
  trailingTag : Option String
  deriving Repr

def token? (default : String) (cs : List Char) : Option (Draft × List Char) := do
  let (leadingTag, r) ← leading? cs
  let (condition, r) ← body? default (skip r)
  let (mark, r) ← mark? (skip r)
  let (trailingTag, r) ← trailing? (skip r)
  some (⟨leadingTag, condition, mark, trailingTag⟩, r)

def within? : List Char → Option (String × List Char)
  | 'w' :: 'i' :: 't' :: 'h' :: 'i' :: 'n' :: r =>
    match skip r with
    | '<' :: r => do
      let (name, r) ← name? isTagChar (skip r)
      match skip r with
      | '>' :: r => some (String.ofList name, r)
      | '/' :: r =>
        match skip r with
        | '>' :: r => some (String.ofList name, r)
        | _ => none
      | _ => none
    | _ => none
  | _ => none

def drafts? (default : String) : Nat → List Char → Option (List Draft × Option String)
  | 0, _ => none
  | n + 1, cs => do
    let (t, r) ← token? default cs
    match skip r with
    | [] => some ([t], none)
    | 'w' :: r =>
      let (name, r) ← within? ('w' :: r)
      if (skip r).isEmpty then some ([t], some name) else none
    | r =>
      let (ts, within) ← drafts? default n r
      some (t :: ts, within)

def settleCount (ds : List Char) : Except Refusal Int :=
  if ds.length ≤ Numeral.maxDigits then
    .ok (Numeral.ofDigits (ds.map (·.toNat - 48)))
  else .error .countTooLong

def Mark.settle : Mark → Except Refusal (Bool × Option Repeat)
  | .none => .ok (false, .none)
  | .optional => .ok (true, .none)
  | .star => .ok (false, some ⟨0, .none⟩)
  | .plus => .ok (false, some ⟨1, .none⟩)
  | .exactly ds => do
    let n ← settleCount ds
    .ok (false, some ⟨n, some n⟩)
  | .between least .none => do
    let l ← settleCount least
    .ok (false, some ⟨l, .none⟩)
  | .between least (some most) => do
    let l ← settleCount least
    let m ← settleCount most
    if m < l then .error (.invertedRepeat l m) else .ok (false, some ⟨l, some m⟩)

def Draft.settle (d : Draft) : Except Refusal Token := do
  let (optional, repeats) ← d.mark.settle
  .ok ⟨d.condition, optional, repeats, d.leadingTag, d.trailingTag⟩

/-- The first token that cannot be settled decides. -/
def settle : List Draft → Except Refusal (List Token)
  | [] => .ok []
  | d :: ds => do
    let t ← d.settle
    let ts ← settle ds
    .ok (t :: ts)

def read (default : String) (cs : List Char) : Except Refusal Pattern :=
  match drafts? default (cs.length + 1) (skip cs) with
  | none => .error .syntaxError
  | some (ds, within) => (settle ds).map fun ts => ⟨ts, within⟩

end Reader

/-- A blank text is the pattern without tokens. A bare literal constrains the annotation
`default`. -/
def parse (text : String) (default : String) : Except Error Pattern :=
  match Text.trim text.toList with
  | [] => .ok .empty
  | cs => (Reader.read default cs).mapError (⟨String.ofList cs, ·⟩)

def parse? (text : Option String) (default : String) : Option Pattern :=
  match text with
  | none => none
  | some t =>
    match parse t default with
    | .ok p => if p.tokens.isEmpty then none else some p
    | .error _ => none

end Concordance.Pattern
