import Concordance.Proofs.Pattern.Order
import Concordance.Proofs.View.Simple
import Concordance.Proofs.View.Tokens

/-! Values whose pattern is shown as values that are written as the same pattern. -/

namespace Concordance

open Text (isName isNameChar)
open Pattern (columns Columns Stands Gathered Ordered)
open Pattern.Reader (isTagChar)

namespace AnnotationValue

variable {v : AnnotationValue}

def isConstrained (v : AnnotationValue) : Bool := v.isActive && v.encode.any Option.isSome

theorem isConstrained_iff : v.isConstrained ↔ v.isActive ∧ settled v.encode ≠ [] := by
  rw [isConstrained, Bool.and_eq_true, settled_ne_nil_iff, List.any_eq_true]
  refine and_congr_right fun _ => ⟨?_, ?_⟩
  · intro ⟨cell, member, constrains⟩
    obtain ⟨regex, rfl⟩ := Option.isSome_iff_exists.mp constrains
    exact ⟨regex, member⟩
  · exact fun ⟨regex, member⟩ => ⟨some regex, member, rfl⟩

theorem isRecoverable_of_isConstrained (h : v.isConstrained)
    (typed : v.kind = .pos → v.isRecoverable) : v.isRecoverable := by
  cases splits : v.kind.splitsWords with
  | true =>
    by_contra free
    rw [isRecoverable_eq splits, Bool.not_eq_true, Bool.not_eq_false'] at free
    obtain ⟨-, constrained⟩ := isConstrained_iff.mp h
    rw [encode_of_isUnconstrained splits free, settled_ne_nil_iff] at constrained
    obtain ⟨regex, member⟩ := constrained
    cases List.eq_of_mem_replicate member
  | false =>
    rcases kind_of_single splits with select | pos
    · rw [isRecoverable, select]
    · exact typed pos

end AnnotationValue

namespace Pattern

def constrained (values : List AnnotationValue) : List AnnotationValue :=
  values.filter (·.isConstrained)

theorem filterMap_constraint? (values : List AnnotationValue) (i : Nat) :
    (values.filter (·.isActive)).filterMap (·.constraint? i) =
      (constrained values).filterMap (·.constraint? i) := by
  rw [constrained, List.filterMap_filter, List.filterMap_filter]
  apply List.filterMap_congr
  intro v _
  cases asked : v.constraint? i with
  | none => simp
  | some a =>
    have constrains : v.encode.any Option.isSome :=
      List.any_eq_true.mpr ⟨_, AnnotationValue.mem_encode_of_constraint? asked, rfl⟩
    rw [AnnotationValue.isConstrained, constrains, Bool.and_true]

variable {values : Keyed AnnotationValue}

theorem mem_constrained {v : AnnotationValue} (member : v ∈ constrained values.values) :
    v.isConstrained ∧ ∃ name, values.get? name = some v := by
  obtain ⟨given, constrains⟩ := List.mem_filter.mp member
  exact ⟨constrains, Keyed.mem_values_iff.mp given⟩

end Pattern

/-- Values as a pattern is shown: under their annotations, of their kinds, and where they constrain
some token, of declared annotations that can be named. -/
structure Pattern.IsShown (s : Settings) (values : Keyed AnnotationValue) : Prop where
  id : ∀ name v, values.get? name = some v → v.id = name
  kind : ∀ name v, values.get? name = some v → v.kind = s.corpus.kindOf name
  known : ∀ name v, values.get? name = some v → v.isConstrained →
    isName isNameChar name.toList ∧ s.corpus.declares name

/-- Values that are written so that they are shown in the same order again: none that was typed as a
regular expression is lost, and they stand in the order of their first constraints. -/
structure Pattern.IsStable (values : List AnnotationValue) : Prop where
  typed : ∀ v ∈ constrained values, v.kind = .pos → v.isRecoverable
  sorted : (constrained values).Pairwise fun v w => start v.encode ≤ start w.encode

namespace Pattern

variable {s : Settings} {values : Keyed AnnotationValue}

theorem isRecoverable_of_mem_constrained (stable : IsStable values.values) {v : AnnotationValue}
    (member : v ∈ constrained values.values) : v.isRecoverable :=
  AnnotationValue.isRecoverable_of_isConstrained (mem_constrained member).1 (stable.typed v member)

theorem exists_constrained {attributes : List Attribute}
    (column : attributes ∈ columns values.values)
    {a : Attribute} (asked : a ∈ attributes) :
    ∃ v ∈ constrained values.values, ∃ i, v.constraint? i = some a := by
  obtain ⟨i, bound, rfl⟩ := List.getElem_of_mem column
  rw [getElem_columns, filterMap_constraint?] at asked
  obtain ⟨v, given, asks⟩ := List.mem_filterMap.mp asked
  exact ⟨v, given, i, asks⟩

namespace IsShown

variable (h : IsShown s values)

include h

theorem aligned : values.Aligned := fun name v found _ => h.id name v found

theorem known_of_constrained {v : AnnotationValue} (member : v ∈ constrained values.values) :
    isName isNameChar v.id.toList ∧ s.corpus.declares v.id := by
  obtain ⟨constrains, name, found⟩ := mem_constrained member
  rw [h.id name v found]
  exact h.known name v found constrains

theorem declares_columns : ∀ attributes ∈ columns values.values, ∀ a ∈ attributes,
    s.corpus.declares a.name := by
  intro attributes column a asked
  obtain ⟨v, given, i, asks⟩ := exists_constrained column asked
  rw [AnnotationValue.name_of_constraint? asks]
  exact (h.known_of_constrained given).2

theorem exists_gathered : ∃ cols, gatherTokens s.corpus 0 (layout values.values) ∅ = .ok cols ∧
    Gathered values.column (columns values.values).length cols := by
  have places : ∀ j, ∀ attributes ∈ (columns values.values)[j]?,
      Stands values.column (0 + j) attributes := by
    intro j attributes member
    rw [Nat.zero_add]
    exact stands_columns h.aligned j attributes member
  obtain ⟨cols, gathers, gathered⟩ :=
    gatherTokens_table Gathered.start places h.declares_columns
  rw [Nat.zero_add] at gathered
  exact ⟨cols, gathers, gathered⟩

variable (stable : IsStable values.values)

include stable

theorem restorable : Restorable s.corpus values := by
  intro name v found active constrains
  refine ⟨h.id name v found, h.kind name v found, isRecoverable_of_mem_constrained stable ?_⟩
  rw [constrained, List.mem_filter, AnnotationValue.isConstrained_iff]
  exact ⟨Keyed.mem_values_iff.mpr ⟨name, found⟩, active, constrains⟩

theorem isWritableUnder (primary : Option String) :
    ∀ t ∈ layout values.values, t.isWritableUnder primary := by
  intro t member
  obtain ⟨attributes, column, rfl⟩ := List.mem_map.mp member
  have written : (conjunction attributes).all Condition.isWritable := by
    apply isWritable_conjunction
    intro a asked
    obtain ⟨v, given, i, asks⟩ := exists_constrained column asked
    refine AnnotationValue.constraint?_isWritable ?_ asks
    exact AnnotationValue.isWritable_of_isRecoverable (h.known_of_constrained given).1
      (isRecoverable_of_mem_constrained stable given)
  apply Reader.isWritableUnder_of_isWritable
  simp [Token.isWritable, Token.ofCondition, written]

end IsShown

end Pattern

namespace Pattern

variable {s : Settings} {values : Keyed AnnotationValue} {p : Pattern}

end Pattern

/-- Tokens at the end that nothing constrains can be shown. A value of words that constrains some
token carries them; where there is no constraint at all, the carrier, if the view may show it. -/
structure Pattern.IsCarried (s : Settings) (values : Keyed AnnotationValue) : Prop where
  carried : constrained values.values ≠ [] → (columns values.values).length ≤ 1 ∨
    ∃ v ∈ constrained values.values, v.kind.splitsWords
  free : constrained values.values = [] → layout values.values ≠ [] → ∃ name ∈ s.extendedIds,
    carrier s.corpus (some s.primary) = .ok name ∧ (s.corpus.kindOf name).splitsWords

namespace Pattern

variable {s : Settings} {values : Keyed AnnotationValue} {within : Option String}

end Pattern

namespace Pattern

variable {s : Settings} {v : AnnotationValue}

end Pattern

namespace Query

variable {q : Query} {s : Settings} {values : Keyed AnnotationValue} {within : Option String}

end Query

end Concordance
