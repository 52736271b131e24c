import Concordance.Settings
import Concordance.Pattern.Layout
import Concordance.Snapshot.Basic

/-! What a view asks the backend for, and what a snapshot is searched with. -/

namespace Concordance

structure Compiled where
  pattern : Option String
  within : Option String
  groupBy : List String
  viewed : Option String
  deriving DecidableEq, Repr

namespace View

/-- The first `size` slots; a negative size leaves out that many from the end. -/
def chosen (size : Int) (slots : List Slot) : List Slot :=
  if 0 ≤ size then slots.take size.toNat else slots.take (slots.length - (-size).toNat)

def slotToken (corpus : Corpus) (slot : Slot) : Token :=
  let value : AnnotationValue :=
    ⟨slot.id, slot.value, slot.caseSensitive, corpus.kindOf slot.id⟩
  .ofCondition (value.encodeSlot.map fun regex => .attribute ⟨slot.id, "=", regex⟩)

/-- Tokens beyond the slots are unconstrained. -/
def ngramTokens (corpus : Corpus) (size : Int) (slots : List Slot) : List Token :=
  let tokens := (chosen size slots).map (slotToken corpus)
  tokens ++ List.replicate (size - tokens.length).toNat .any

def compile (s : Settings) : View → Compiled
  | simple v => ⟨Pattern.ofValues? [v] none (some s.primary), none, [], none⟩
  | extended values within _ =>
    let pattern := Pattern.ofValues? values.values within (some s.primary)
    ⟨pattern, if pattern.isSome then within else none, [], none⟩
  | advanced pattern => ⟨Text.nonEmpty? pattern, none, [], none⟩
  | expert pattern => ⟨Text.nonEmpty? pattern, none, [], none⟩
  | frequency id => ⟨some "[]", none, [Group.hitKey id], some hits⟩
  | ngram group size _ slots =>
    let pattern : Pattern := ⟨ngramTokens s.corpus size slots, none⟩
    ⟨Text.nonEmpty? (some (pattern.text none)), none, [Group.hitKey group], some hits⟩
  | corpora groupBy _ => ⟨none, none, (Text.nonEmpty? groupBy).toList, some docs⟩

end View

namespace Snapshot

/-- Settles the result view and the grouping. An explore view has its own; a search view opens
hits if there is a pattern and documents otherwise. -/
def prepare (s : Settings) (x : Snapshot) : Snapshot :=
  match x.view with
  | none => x
  | some view =>
    let compiled := view.compile s
    match compiled.viewed with
    | some viewed =>
      let displayMode := match view with
        | .corpora _ displayMode => displayMode
        | _ => none
      { x with
        viewed := some viewed
        results := { ResultSettings.initial with groupBy := compiled.groupBy, displayMode } }
    | none =>
      let wanted := if compiled.pattern.isSome then hits else docs
      let viewed := match x.viewed with
        | none => wanted
        | some v => if v = hits then wanted else v
      if x.viewed = some viewed then
        { x with results := { x.results with page := 0, viewGroup := none } }
      else { x with viewed := some viewed, results := .initial }

end Snapshot

end Concordance
