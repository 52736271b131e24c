import Concordance.Numeral.Integer
import Concordance.Text.Quoted
import Concordance.Pattern.Basic
import Concordance.Annotation.Case

/-! Writing token patterns in their canonical form. -/

namespace Concordance

/-- Parentheses are left out only around an operand with the operator of its chain. -/
def Condition.render : Condition → List Char
  | .attribute a => a.name.toList ++ a.operator.toList ++ Quoted.quote a.value.toList
  | .negation e => if e.isBinary then '!' :: '(' :: e.render ++ [')'] else '!' :: e.render
  | .binary op l r =>
    side op l l.render ++ ' ' :: op.toList ++ ' ' :: side op r r.render
where
  side (op : String) (e : Condition) (text : List Char) : List Char :=
    match e with
    | .binary op' .. => if op' = op then text else '(' :: text ++ [')']
    | _ => text

def Condition.text (c : Condition) : String := String.ofList c.render

def Repeat.render (r : Repeat) : List Char :=
  match r.most with
  | none =>
    if r.least = 0 then ['*']
    else if r.least = 1 then ['+']
    else '\x7b' :: Numeral.signed r.least ++ [',', '\x7d']
  | some most =>
    if r.least = most then '\x7b' :: Numeral.signed most ++ ['\x7d']
    else '\x7b' :: Numeral.signed r.least ++ ',' :: Numeral.signed most ++ ['\x7d']

namespace Token

def mark (t : Token) : List Char :=
  if t.optional then ['?'] else (t.repeats.map Repeat.render).getD []

def bare? (primary : Option String) (t : Token) : Option String :=
  match primary, t.condition with
  | some p, some (.attribute a) =>
    if a.name = p ∧ a.operator = "=" ∧ !CaseMark.isMarked a.value.toList then some a.value
    else none
  | _, _ => none

def body (primary : Option String) (t : Token) : List Char :=
  match t.bare? primary, t.condition with
  | some value, _ => Quoted.quote value.toList
  | none, some e => '[' :: e.render ++ [']']
  | none, none => ['[', ']']

def leading (t : Token) : List Char :=
  match t.leadingTag with
  | some name => if name.isEmpty then [] else '<' :: name.toList ++ ['>']
  | none => []

def trailing (t : Token) : List Char :=
  match t.trailingTag with
  | some name => if name.isEmpty then [] else '<' :: '/' :: name.toList ++ ['>']
  | none => []

def render (primary : Option String) (t : Token) : List Char :=
  t.leading ++ t.body primary ++ t.mark ++ t.trailing

/-- Tokens side by side; a blank stands only next to a bare literal. -/
def renderAll (primary : Option String) : List Token → List Char
  | [] => []
  | [t] => t.render primary
  | t :: u :: ts =>
    t.render primary ++
      (if (t.bare? primary).isSome || (u.bare? primary).isSome then [' '] else []) ++
      renderAll primary (u :: ts)

end Token

namespace Pattern

/-- Tokens that hold only a value of the annotation `primary` are written as bare literals. -/
def render (p : Pattern) (primary : Option String) : List Char :=
  let tokens := Token.renderAll primary p.tokens
  match p.within with
  | some name =>
    if tokens.isEmpty || name.isEmpty then tokens
    else tokens ++ " within <".toList ++ name.toList ++ ['/', '>']
  | none => tokens

def text (p : Pattern) (primary : Option String) : String := String.ofList (p.render primary)

end Pattern

end Concordance
