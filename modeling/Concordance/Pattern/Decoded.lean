import Concordance.Annotation.Value
import Concordance.Pattern.Basic

/-! Patterns as one value for each annotation, where that says all. -/

namespace Concordance.Pattern

inductive Unsupported
  | decoratedToken
  | alternatives
  | comparison (operator name : String)
  | constrainedTwice (name : String)
  | negated
  | trailingTokens
  | noCarrier
  | skippedToken (e : AnnotationValue.SkippedToken)
  deriving DecidableEq, Repr

def Unsupported.message : Unsupported → String
  | decoratedToken => "token has tags, repetition or is optional"
  | alternatives => "alternatives cannot be shown as values"
  | comparison operator name => s!"operator {operator} on {name}"
  | constrainedTwice name => s!"{name} constrained twice in one token"
  | negated => "negation cannot be shown as values"
  | trailingTokens => "trailing [] tokens need a word-splitting annotation"
  | noCarrier => "[] tokens need a word-splitting annotation"
  | skippedToken e => e.message

/-- For each annotation the regular expressions of its tokens so far. -/
abbrev Columns := Keyed (List (Option String))

/-- The constraints of the token at place `i`. Annotations that are not declared are dropped. -/
def gather (corpus : Corpus) (i : Nat) : Condition → Columns → Except Unsupported Columns
  | .attribute a, columns =>
    if !corpus.declares a.name then .ok columns
    else if a.operator ≠ "=" then .error (.comparison a.operator a.name)
    else
      let before := (columns.get? a.name).getD []
      if i < before.length then .error (.constrainedTwice a.name)
      else .ok (columns.insert a.name
        (before ++ List.replicate (i - before.length) none ++ [some a.value]))
  | .negation _, _ => .error .negated
  | .binary operator left right, columns =>
    if operator ≠ "&" then .error .alternatives
    else do
      let columns ← gather corpus i left columns
      gather corpus i right columns

def gatherTokens (corpus : Corpus) : Nat → List Token → Columns → Except Unsupported Columns
  | _, [], columns => .ok columns
  | i, t :: ts, columns =>
    if !t.isPlain then .error .decoratedToken
    else do
      let columns ← match t.condition with
        | some c => gather corpus i c columns
        | none => .ok columns
      gatherTokens corpus (i + 1) ts columns

/-- The annotation whose words stand for tokens that constrain nothing. -/
def carrier (corpus : Corpus) (primary : Option String) : Except Unsupported String :=
  let candidate := (Text.nonEmpty? primary).getD corpus.primary
  if (corpus.kindOf candidate).splitsWords then .ok candidate
  else
    match corpus.visible.find? (·.kind.splitsWords) with
    | some a => .ok a.id
    | none => .error .noCarrier

def fill (corpus : Corpus) (primary : Option String) (length : Nat) (columns : Columns) :
    Except Unsupported Columns := do
  let columns ← if columns.isEmpty && length != 0 then do
      let name ← carrier corpus primary
      pure (columns.insert name [])
    else pure columns
  if !columns.isEmpty && columns.values.all (·.length < length) then
    let carriers := columns.keys.filter fun name => (corpus.kindOf name).splitsWords
    match carriers with
    | [] => .error .trailingTokens
    | first :: _ =>
      let name := match primary with
        | some p => if carriers.contains p then p else first
        | none => first
      let before := (columns.get? name).getD []
      .ok (columns.insert name (before ++ List.replicate (length - before.length) none))
  else .ok columns

def decodeColumns (corpus : Corpus) :
    List (String × List (Option String)) → Except Unsupported (List (String × AnnotationValue))
  | [] => .ok []
  | (name, regexes) :: rest => do
    let v ← (AnnotationValue.decode name regexes (corpus.kindOf name)).mapError .skippedToken
    let vs ← decodeColumns corpus rest
    .ok ((name, v) :: vs)

/-- The values under their annotations. The i-th token's constraint is the i-th word of a value,
`*` where there is none. -/
def values (p : Pattern) (corpus : Corpus) (primary : Option String) :
    Except Unsupported (Keyed AnnotationValue) := do
  let columns ← gatherTokens corpus 0 p.tokens ∅
  let columns ← fill corpus primary p.tokens.length columns
  let decoded ← decodeColumns corpus columns.entries
  .ok (.ofList decoded)

end Concordance.Pattern
