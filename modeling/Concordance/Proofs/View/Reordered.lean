import Mathlib.Data.List.Perm.Basic
import Concordance.Proofs.Json.Compact
import Concordance.Proofs.Pattern.Reordered
import Concordance.Snapshot.Json
import Concordance.View.Compile

/-! The stable text of a view tells the view, up to the order in which the values of an extended
view were typed. That order only decides the order of constraints in the pattern. -/

namespace Concordance

open Json

theorem AnnotationKind.name_injective : Function.Injective AnnotationKind.name := by
  intro k l same
  cases k <;> cases l <;> first | rfl | exact absurd same (by decide)

theorem Mode.name_injective : Function.Injective Mode.name := by
  intro m n same
  cases m with
  | search m =>
    cases n with
    | search n => cases m <;> cases n <;> first | rfl | exact absurd same (by decide)
    | explore n => cases m <;> cases n <;> exact absurd same (by decide)
  | explore m =>
    cases n with
    | search n => cases m <;> cases n <;> exact absurd same (by decide)
    | explore n => cases m <;> cases n <;> first | rfl | exact absurd same (by decide)

theorem AnnotationValue.sorted_toJson_injective :
    Function.Injective fun v : AnnotationValue => v.toJson.sorted := by
  intro v w same
  have values := values_eq_of_sorted_obj same rfl (by simp)
  obtain ⟨id, value, sensitive, kind⟩ := v
  obtain ⟨id', value', sensitive', kind'⟩ := w
  simp only [List.map_cons, List.map_nil, sorted, List.cons.injEq, str.injEq, bool.injEq] at values
  obtain ⟨rfl, rfl, rfl, named, -⟩ := values
  rw [AnnotationKind.name_injective named]

theorem Slot.sorted_toJson_injective : Function.Injective fun s : Slot => s.toJson.sorted := by
  intro s t same
  have values := values_eq_of_sorted_obj same rfl (by simp)
  obtain ⟨id, value, sensitive⟩ := s
  obtain ⟨id', value', sensitive'⟩ := t
  simp only [List.map_cons, List.map_nil, sorted, List.cons.injEq, str.injEq, bool.injEq] at values
  obtain ⟨rfl, rfl, rfl, -⟩ := values
  rfl

theorem Json.sorted_optionalText_injective :
    Function.Injective fun s : Option String => (optionalText s).sorted := by
  intro s t same
  cases s with
  | none =>
    cases t with
    | none => rfl
    | some t => cases same
  | some s =>
    cases t with
    | none => cases same
    | some t => exact congrArg some (str.inj same)

namespace View

/-- The same view, but for the order in which the values of an extended view were typed. -/
inductive Reordered : View → View → Prop
  | same (v : View) : Reordered v v
  | values {vs ws : Keyed AnnotationValue} (h : vs.entries.Perm ws.entries)
      (within : Option String) (splitBatch : Bool) :
      Reordered (extended vs within splitBatch) (extended ws within splitBatch)

theorem isExact_toJson (v : View) : isExact v.toJson := by
  have text (s : Option String) : isExact (optionalText s) := by cases s <;> rfl
  cases v with
  | simple value => rfl
  | extended values within splitBatch =>
    have typed : haveExact (values.map AnnotationValue.toJson).entries := by
      rw [haveExact_eq, Keyed.map, List.all_map]
      exact List.all_eq_true.mpr fun e member => rfl
    simp [toJson, isExact, haveExact, typed, text]
  | advanced pattern => simp [toJson, isExact, haveExact, text]
  | expert pattern => simp [toJson, isExact, haveExact, text]
  | frequency id => rfl
  | ngram group size maxSize slots =>
    have filled : areExact (slots.map Slot.toJson) := by
      rw [areExact_eq, List.all_map]
      exact List.all_eq_true.mpr fun s member => rfl
    simp [toJson, isExact, haveExact, filled]
  | corpora groupBy displayMode => simp [toJson, isExact, haveExact, text]

def members (v : View) : List (String × Json) :=
  match v.toJson with
  | .obj ms => ms
  | _ => []

theorem toJson_eq (v : View) : v.toJson = .obj v.members := by
  cases v <;> rfl

theorem nodup_members (v : View) : (v.members.map (·.1)).Nodup := by
  cases v <;> simp [members, toJson]

theorem type_mem_members (v : View) : ("type", .str v.mode.name) ∈ v.members := by
  cases v <;> exact List.mem_cons_self

theorem names_eq_of_mode {v w : View} (same : v.mode = w.mode) :
    v.members.map (·.1) = w.members.map (·.1) := by
  cases v <;> cases w <;> first | rfl | cases same

theorem mode_eq_of_sorted {v w : View} (same : sorted (.obj v.members) = sorted (.obj w.members)) :
    v.mode = w.mode :=
  Mode.name_injective
    (str.inj (sorted_value_eq same w.nodup_members v.type_mem_members w.type_mem_members))

theorem perm_of_sorted_values {vs ws : Keyed AnnotationValue}
    (same : sorted (.obj (vs.map AnnotationValue.toJson).entries) =
      sorted (.obj (ws.map AnnotationValue.toJson).entries)) : vs.entries.Perm ws.entries := by
  have entries := perm_of_sorted_obj same
  simp only [Keyed.map, List.map_map, Function.comp_def] at entries
  refine (List.map_perm_map_iff ?_).mp entries
  intro e f same
  obtain ⟨name, value⟩ := Prod.mk.inj same
  exact Prod.ext name (AnnotationValue.sorted_toJson_injective value)

theorem reordered_of_sorted {v w : View} (same : v.toJson.sorted = w.toJson.sorted) :
    v.Reordered w := by
  rw [toJson_eq, toJson_eq] at same
  have mode := mode_eq_of_sorted same
  have values := values_eq_of_sorted_obj same (names_eq_of_mode mode) v.nodup_members
  cases v with
  | simple a =>
    cases w with
    | simple b =>
      simp only [members, toJson, List.map_cons, List.map_nil, List.cons.injEq] at values
      rw [AnnotationValue.sorted_toJson_injective values.2.1]
      exact .same _
    | _ => cases mode
  | extended vs within splitBatch =>
    cases w with
    | extended ws within' splitBatch' =>
      simp only [members, toJson, List.map_cons, List.map_nil, List.cons.injEq] at values
      obtain ⟨-, typed, tag, split, -⟩ := values
      rw [Json.sorted_optionalText_injective tag, bool.inj split]
      exact .values (perm_of_sorted_values typed) _ _
    | _ => cases mode
  | advanced pattern =>
    cases w with
    | advanced pattern' =>
      simp only [members, toJson, List.map_cons, List.map_nil, List.cons.injEq] at values
      rw [Json.sorted_optionalText_injective values.2.1]
      exact .same _
    | _ => cases mode
  | expert pattern =>
    cases w with
    | expert pattern' =>
      simp only [members, toJson, List.map_cons, List.map_nil, List.cons.injEq] at values
      rw [Json.sorted_optionalText_injective values.2.1]
      exact .same _
    | _ => cases mode
  | frequency id =>
    cases w with
    | frequency id' =>
      simp only [members, toJson, List.map_cons, List.map_nil, List.cons.injEq] at values
      rw [str.inj values.2.1]
      exact .same _
    | _ => cases mode
  | ngram group size maxSize slots =>
    cases w with
    | ngram group' size' maxSize' slots' =>
      simp only [members, toJson, List.map_cons, List.map_nil, List.cons.injEq] at values
      obtain ⟨-, named, wide, most, filled, -⟩ := values
      simp only [sorted, arr.injEq, sortedItems_eq, List.map_map] at filled
      rw [str.inj named, int.inj wide, int.inj most,
        List.map_injective_iff.mpr Slot.sorted_toJson_injective filled]
      exact .same _
    | _ => cases mode
  | corpora groupBy displayMode =>
    cases w with
    | corpora groupBy' displayMode' =>
      simp only [members, toJson, List.map_cons, List.map_nil, List.cons.injEq] at values
      rw [Json.sorted_optionalText_injective values.2.1,
        Json.sorted_optionalText_injective values.2.2.1]
      exact .same _
    | _ => cases mode

theorem Reordered.sameText {v w : View} (h : v.Reordered w) (s : Settings) :
    Pattern.SameText (some s.primary) (v.compile s).pattern (w.compile s).pattern := by
  cases h with
  | same v => exact .inl rfl
  | values typed within splitBatch =>
    exact Pattern.sameText_ofValues? (typed.map (·.2)) within (some s.primary)

end View

namespace Snapshot

variable {x y : Snapshot}

/-- Only expert editing has gap data, and its patterns are not reordered. -/
theorem activeGap_eq {v w : View} (left : x.view = some v) (right : y.view = some w)
    (same : v.Reordered w) (gap : x.gap = y.gap) : x.activeGap = y.activeGap := by
  rw [activeGap, activeGap, left, right, gap]
  cases same with
  | same v => rfl
  | values typed within splitBatch => rfl

end Snapshot

end Concordance
