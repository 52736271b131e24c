import Concordance.Settings
import Concordance.Filter.Value
import Concordance.Pattern.Reader
import Concordance.Pattern.Decoded
import Concordance.View.Basic
import Concordance.View.Group

/-! Picking the view that shows a query without losing any of it. -/

namespace Concordance

structure Query where
  pattern : Option String
  filters : Keyed FilterValue
  groups : GroupSpec
  gap : Option String
  viewed : Option String
  displayMode : Option String
  deriving DecidableEq, Repr

namespace Query

variable (q : Query) (s : Settings)

def hasPattern : Bool := q.pattern.any (!·.isEmpty)

def hasGap : Bool := q.gap.any (!·.isEmpty)

def parsed : Option Pattern := Pattern.parse? q.pattern s.primary

def values : Option (Keyed AnnotationValue) :=
  match q.parsed s with
  | none => none
  | some p => (p.values s.corpus (some s.primary)).toOption

def hasFilters : Bool := q.filters.values.any (·.isActive)

def groupedId : Option String :=
  match q.groups.groupBy with
  | [] => none
  | key :: _ => (Group.hitName? key).filter s.corpus.declares

/-! What each view would show of the query, or nothing where it cannot. -/

def simple? : Option View :=
  match q.parsed s, q.values s with
  | some p, some values =>
    if p.within.any (!·.isEmpty) || values.entries.length != 1 then none
    else (values.get? s.primary).map .simple
  | _, _ => none

def extended? : Option View :=
  match q.parsed s, q.values s with
  | some p, some values =>
    if values.isEmpty || values.keys.any (!s.extendedIds.contains ·) then none
    else some (.extended values p.within false)
  | _, _ => none

def advanced? : Option View :=
  if (q.parsed s).isNone || !s.advancedEnabled then none else some (.advanced q.pattern)

def expert? : Option View := if q.hasPattern then some (.expert q.pattern) else none

def frequency? : Option View :=
  if q.pattern ≠ some "[]" ∨ q.groups.keys.length ≠ 1 then none
  else ((q.groupedId s).filter (!·.isEmpty)).map .frequency

/-- The slot of a token that holds at most one constraint. -/
def slot? (group : String) (t : Token) : Option Slot :=
  if !t.isPlain then none
  else
    match t.condition with
    | none => some ⟨group, "", false⟩
    | some (.attribute a) =>
      if a.operator ≠ "=" then none
      else
        match AnnotationValue.decode a.name [some a.value] (s.corpus.kindOf a.name) with
        | .ok v => some ⟨a.name, v.value, v.caseSensitive⟩
        | .error _ => none
    | some _ => none

def ngram? : Option View :=
  if !q.groups.contextKeys.isEmpty then none
  else
    match q.groupedId s, q.parsed s with
    | some group, some p =>
      if p.within.any (!·.isEmpty) || s.ngramMaxSize < p.tokens.length then none
      else (p.tokens.mapM (slot? s group)).map fun slots =>
        .ngram group slots.length s.ngramMaxSize slots
    | _, _ => none

def corpora? : Option View :=
  if q.viewed ≠ some "docs" ∨ q.hasPattern ∨ !q.groups.contextKeys.isEmpty then none
  else some (.corpora q.groups.groupBy.head? q.displayMode)

/-- Whether the simple view says all: it shows no case mark, filters or gap, and at least one
word that constrains something. -/
def fitsSimple : Bool :=
  match q.simple? s with
  | some (.simple v) =>
    !v.caseSensitive && (Text.words v.value.toList).any (!Wildcard.isOpen ·) &&
      !q.hasFilters && !q.hasGap
  | _ => false

def fallback : View :=
  if q.hasFilters then if q.hasGap then .expert none else .extended ∅ none false
  else .blank s.primary

/-- The least expressive view that represents the query exactly. -/
def classify : View :=
  let choices : List (Option View) :=
    [q.frequency? s,
     if q.fitsSimple s then none else q.ngram? s,
     if q.groups.groupBy.isEmpty then none else q.corpora?,
     if q.fitsSimple s then q.simple? s else none,
     if q.hasGap then none else q.extended? s,
     if q.hasGap then none else q.advanced? s,
     q.expert?]
  (choices.findSome? fun v => v).getD (q.fallback s)

end Query

end Concordance
