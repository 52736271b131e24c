import Concordance.Proofs.Text.Words
import Concordance.Proofs.View.Group
import Concordance.Snapshot.Basic

/-! Groupings of results, written as one text and read again. All keys come back, but for a plain
key `context`: once it is marked, it is a context key. -/

namespace Concordance

open Concordance.Group (IsKey isContext marked)

theorem Group.isContext_marked_eq (sensitive : Bool) {key : String}
    (noContext : isContext key = false) :
    isContext (marked sensitive key) = decide (key = "context") := by
  by_cases word : key = "context"
  · subst word
    cases sensitive <;> rfl
  · rw [isContext_marked sensitive noContext word, decide_eq_false word]

namespace ResultSettings

/-- Keys that stay apart between commas, the context keys told by their mark. -/
structure IsGroupable (r : ResultSettings) : Prop where
  groupBy : ∀ key ∈ r.groupBy, IsKey key ∧ isContext key = false
  contextKeys : ∀ key ∈ r.contextKeys, IsKey key ∧ isContext key

variable {r : ResultSettings}

theorem keys_group (r : ResultSettings) :
    r.group.keys = r.groupBy.map (marked r.caseSensitive) ++ r.contextKeys := rfl

theorem parse_group (h : r.IsGroupable) : GroupSpec.parse r.group.param = r.group := by
  apply GroupSpec.parse_param
  intro key member
  rw [keys_group, List.mem_append] at member
  rcases member with plain | context
  · obtain ⟨k, given, rfl⟩ := List.mem_map.mp plain
    exact Group.isKey_marked r.caseSensitive (h.groupBy k given).1
  · exact (h.contextKeys key context).1

theorem plainKeys_group (h : r.IsGroupable) : r.group.plainKeys =
    (r.groupBy.filter (· ≠ "context")).map (marked r.caseSensitive) := by
  have context : r.contextKeys.filter (!isContext ·) = [] := by
    apply List.filter_eq_nil_iff.mpr
    intro key member
    simp [(h.contextKeys key member).2]
  have plain : (r.groupBy.map (marked r.caseSensitive)).filter (!isContext ·) =
      (r.groupBy.filter (· ≠ "context")).map (marked r.caseSensitive) := by
    rw [List.filter_map]
    refine congrArg _ (List.filter_congr fun key member => ?_)
    simp [Group.isContext_marked_eq r.caseSensitive (h.groupBy key member).2]
  rw [GroupSpec.plainKeys, keys_group, List.filter_append, plain, context, List.append_nil]

theorem contextKeys_group (h : r.IsGroupable) : r.group.contextKeys =
    (r.groupBy.filter (· = "context")).map (marked r.caseSensitive) ++ r.contextKeys := by
  have context : r.contextKeys.filter isContext = r.contextKeys :=
    List.filter_eq_self.mpr fun key member => (h.contextKeys key member).2
  have plain : (r.groupBy.map (marked r.caseSensitive)).filter isContext =
      (r.groupBy.filter (· = "context")).map (marked r.caseSensitive) := by
    rw [List.filter_map]
    refine congrArg _ (List.filter_congr fun key member => ?_)
    exact Group.isContext_marked_eq r.caseSensitive (h.groupBy key member).2
  rw [GroupSpec.contextKeys, keys_group, List.filter_append, plain, context]

theorem groupBy_group (h : r.IsGroupable) :
    r.group.groupBy = r.groupBy.filter (· ≠ "context") := by
  calc r.group.groupBy
    _ = (r.groupBy.filter (· ≠ "context")).map (Group.strip ∘ marked r.caseSensitive) := by
      rw [GroupSpec.groupBy, plainKeys_group h, List.map_map]
    _ = (r.groupBy.filter (· ≠ "context")).map id :=
      List.map_congr_left fun key _ => Group.strip_marked r.caseSensitive
    _ = r.groupBy.filter (· ≠ "context") := List.map_id _

theorem caseSensitive_group (h : r.IsGroupable) :
    r.group.caseSensitive ↔ r.caseSensitive ∧ r.groupBy.filter (· ≠ "context") ≠ [] := by
  rw [GroupSpec.caseSensitive, plainKeys_group h]
  cases r.groupBy.filter (· ≠ "context") with
  | nil => simp
  | cons key keys => cases r.caseSensitive <;> simp [Group.marksCase_marked]

/-- A grouping comes back from its text just if no plain key of it is the bare word `context`. -/
theorem grouping_restored_iff (h : r.IsGroupable) :
    ((GroupSpec.parse r.group.param).groupBy = r.groupBy ∧
      (GroupSpec.parse r.group.param).contextKeys = r.contextKeys ∧
      ((GroupSpec.parse r.group.param).caseSensitive ↔ r.caseSensitive ∧ r.groupBy ≠ [])) ↔
    "context" ∉ r.groupBy := by
  rw [parse_group h]
  constructor
  · rintro ⟨groupBy, -, -⟩ word
    rw [groupBy_group h] at groupBy
    rw [← groupBy] at word
    exact of_decide_eq_true (List.mem_filter.mp word).2 rfl
  · intro noWord
    have other : ∀ key ∈ r.groupBy, key ≠ "context" := by
      intro key member same
      exact noWord (same ▸ member)
    have kept : r.groupBy.filter (· ≠ "context") = r.groupBy :=
      List.filter_eq_self.mpr fun key member => decide_eq_true (other key member)
    have none : r.groupBy.filter (· = "context") = [] :=
      List.filter_eq_nil_iff.mpr fun key member same =>
        other key member (of_decide_eq_true same)
    refine ⟨?_, ?_, ?_⟩
    · rw [groupBy_group h, kept]
    · rw [contextKeys_group h, none, List.map_nil, List.nil_append]
    · rw [caseSensitive_group h, kept]

def lookalikes : ResultSettings :=
  { initial with
    groupBy := ["hit:lemma", "contexts", "shelf:s"]
    contextKeys := ["context:word:i:L1-3", "context:"]
    caseSensitive := true }

theorem isGroupable_lookalikes : lookalikes.IsGroupable := by
  constructor
  · intro key member
    simp only [lookalikes, List.mem_cons, List.not_mem_nil, or_false] at member
    rcases member with rfl | rfl | rfl <;>
      exact ⟨⟨by decide, Text.solid_of_isWord (by decide), by decide⟩, by decide⟩
  · intro key member
    simp only [lookalikes, List.mem_cons, List.not_mem_nil, or_false] at member
    rcases member with rfl | rfl <;>
      exact ⟨⟨by decide, Text.solid_of_isWord (by decide), by decide⟩, by decide⟩

theorem grouping_restored_lookalikes : lookalikes.IsGroupable ∧
    (GroupSpec.parse lookalikes.group.param).groupBy = lookalikes.groupBy ∧
    (GroupSpec.parse lookalikes.group.param).contextKeys = lookalikes.contextKeys ∧
    ((GroupSpec.parse lookalikes.group.param).caseSensitive ↔
      lookalikes.caseSensitive ∧ lookalikes.groupBy ≠ []) :=
  ⟨isGroupable_lookalikes, (grouping_restored_iff isGroupable_lookalikes).mpr (by decide)⟩

def countedByContext : ResultSettings := { initial with groupBy := ["context"] }

theorem isGroupable_countedByContext : countedByContext.IsGroupable := by
  constructor
  · intro key member
    rw [List.mem_singleton.mp member]
    exact ⟨⟨by decide, Text.solid_of_isWord (by decide), by decide⟩, by decide⟩
  · nofun

/-- The field is read as a context key. -/
theorem grouping_loses_context : countedByContext.IsGroupable ∧
    (GroupSpec.parse countedByContext.group.param).groupBy = [] ∧
    (GroupSpec.parse countedByContext.group.param).contextKeys = ["context:i"] ∧
    ¬((GroupSpec.parse countedByContext.group.param).groupBy = countedByContext.groupBy ∧
      (GroupSpec.parse countedByContext.group.param).contextKeys = countedByContext.contextKeys ∧
      ((GroupSpec.parse countedByContext.group.param).caseSensitive ↔
        countedByContext.caseSensitive ∧ countedByContext.groupBy ≠ [])) :=
  ⟨isGroupable_countedByContext, by decide, by decide, by decide⟩

end ResultSettings

end Concordance
