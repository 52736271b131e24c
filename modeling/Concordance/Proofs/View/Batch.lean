import Concordance.View.Batch
import Concordance.Proofs.View.Simple

/-! Views that are split: what can be split, and that each alternative has a pattern. -/

namespace Concordance

theorem AnnotationValue.encode_ne_nil {v : AnnotationValue} (active : v.isActive) :
    v.encode ≠ [] := by
  cases splits : v.kind.splitsWords with
  | true => exact encode_ne_nil_of_isActive splits active
  | false =>
    obtain ⟨regex, encoded⟩ := encode_single splits
    rw [encoded]
    exact List.cons_ne_nil _ _

namespace View

variable {view : Option View} {views : List View} {w : View} {values : Keyed AnnotationValue}
  {within : Option String}

theorem exists_of_split (split : View.split view = .ok views) :
    ∃ values within, view = some (.extended values within true) := by
  rw [View.split.eq_def] at split
  split at split
  · exact ⟨_, _, rfl⟩
  · cases split

theorem split_eq_nil_iff : View.split (some (.extended values within true)) = .ok [] ↔
    ∀ v ∈ values.values, v.isActive → v.kind ≠ .pos → v.alternatives = [] := by
  simp [View.split]

theorem exists_of_mem_split (split : View.split view = .ok views) (member : w ∈ views) :
    ∃ v within, v.isActive ∧ w = .extended (Keyed.ofList [(v.id, v)]) within false := by
  obtain ⟨values, within, rfl⟩ := exists_of_split split
  rw [← Except.ok.inj split] at member
  obtain ⟨v, alternative, rfl⟩ := List.mem_map.mp member
  obtain ⟨value, -, alternative⟩ := List.mem_flatMap.mp alternative
  obtain ⟨part, given, rfl⟩ := List.mem_map.mp alternative
  obtain ⟨piece, filled⟩ := List.mem_filter.mp given
  obtain ⟨text, -, rfl⟩ := List.mem_map.mp piece
  refine ⟨{ value with value := String.ofList (Text.trim text) }, within, ?_, rfl⟩
  rw [AnnotationValue.isActive, String.toList_ofList, Text.trim_trim]
  exact filled

end View

end Concordance
