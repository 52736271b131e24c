/-! Token patterns: what is asked of each word of a passage. -/

namespace Concordance

structure Attribute where
  name : String
  operator : String
  value : String
  deriving DecidableEq, Repr, Inhabited

inductive Condition
  | attribute (a : Attribute)
  | negation (operand : Condition)
  | binary (operator : String) (left right : Condition)
  deriving DecidableEq, Repr, Inhabited

/-- Bounds of a repetition; without `most` there is no upper one. -/
structure Repeat where
  least : Int
  most : Option Int
  deriving DecidableEq, Repr

structure Token where
  condition : Option Condition
  optional : Bool
  repeats : Option Repeat
  leadingTag : Option String
  trailingTag : Option String
  deriving DecidableEq, Repr

structure Pattern where
  tokens : List Token
  within : Option String
  deriving DecidableEq, Repr

namespace Condition

def isBinary : Condition → Bool
  | binary .. => true
  | _ => false

end Condition

namespace Token

def any : Token := ⟨none, false, none, none, none⟩

def ofCondition (c : Option Condition) : Token := ⟨c, false, none, none, none⟩

/-- Neither tags nor a repetition. -/
def isPlain (t : Token) : Bool :=
  !t.optional && t.repeats.isNone && t.leadingTag.isNone && t.trailingTag.isNone

end Token

def Pattern.empty : Pattern := ⟨[], none⟩

end Concordance
