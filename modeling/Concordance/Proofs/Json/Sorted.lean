import Concordance.Proofs.Json.Reread

/-! Sorted data has the same members, so the same is read under every name. -/

namespace Concordance

/-! ### Entries by name -/

namespace Keyed

variable {α : Type}

def nameLe (a b : String × α) : Bool := decide (a.1 ≤ b.1)

theorem mergeSort_eq_of_perm {es fs : List (String × α)} (distinct : (es.map (·.1)).Nodup)
    (same : es.Perm fs) : es.mergeSort nameLe = fs.mergeSort nameLe := by
  have perm := ((List.mergeSort_perm es nameLe).trans same).trans
    (List.mergeSort_perm fs nameLe).symm
  have sorted (ds : List (String × α)) : (ds.mergeSort nameLe).Pairwise fun a b => nameLe a b := by
    apply List.pairwise_mergeSort
    · intro a b c ab bc
      exact decide_eq_true (String.le_trans (of_decide_eq_true ab) (of_decide_eq_true bc))
    · intro a b
      simpa [nameLe] using String.le_total a.1 b.1
  refine List.Perm.eq_of_pairwise ?_ (sorted es) (sorted fs) perm
  intro a b left right ab ba
  have left : a ∈ es := (List.mergeSort_perm es nameLe).mem_iff.mp left
  have right : b ∈ es := same.mem_iff.mpr ((List.mergeSort_perm fs nameLe).mem_iff.mp right)
  exact List.inj_on_of_nodup_map distinct left right
    (String.le_antisymm (of_decide_eq_true ab) (of_decide_eq_true ba))

def arranged (m : Keyed α) : Keyed α :=
  ⟨m.entries.mergeSort nameLe, ((List.mergeSort_perm _ _).map _).nodup_iff.mpr m.nodup⟩

theorem perm_arranged (m : Keyed α) : m.arranged.entries.Perm m.entries :=
  List.mergeSort_perm _ _

theorem get?_eq_of_perm {m n : Keyed α} (same : m.entries.Perm n.entries) (name : String) :
    m.get? name = n.get? name := by
  ext value
  rw [get?_eq_some_iff, get?_eq_some_iff, same.mem_iff]

end Keyed

/-! ### Members by name -/

namespace Json

variable {ms ns : List (String × Json)}

theorem sorted_obj (ms : List (String × Json)) :
    sorted (.obj ms) = .obj ((ms.map fun m => (m.1, sorted m.2)).mergeSort Keyed.nameLe) := by
  rw [sorted, sortedMembers_eq]
  rfl

theorem perm_sorted (ms : List (String × Json)) :
    ((ms.map fun m => (m.1, sorted m.2)).mergeSort Keyed.nameLe).Perm
      (ms.map fun m => (m.1, sorted m.2)) := List.mergeSort_perm _ _

theorem names_sorted (ms : List (String × Json)) :
    (ms.map fun m => (m.1, sorted m.2)).map (·.1) = ms.map (·.1) := by
  rw [List.map_map]
  rfl

theorem nodup_sorted (distinct : (ms.map (·.1)).Nodup) :
    (((ms.map fun m => (m.1, sorted m.2)).mergeSort Keyed.nameLe).map (·.1)).Nodup :=
  ((perm_sorted ms).map (·.1)).nodup_iff.mpr (names_sorted ms ▸ distinct)

theorem sorted_obj_eq_of_perm (distinct : (ms.map (·.1)).Nodup)
    (same : (ms.map fun m => (m.1, sorted m.2)).Perm (ns.map fun n => (n.1, sorted n.2))) :
    sorted (.obj ms) = sorted (.obj ns) := by
  rw [sorted_obj, sorted_obj, Keyed.mergeSort_eq_of_perm (names_sorted ms ▸ distinct) same]

theorem get?_sorted (distinct : (ms.map (·.1)).Nodup) (name : String) :
    (sorted (.obj ms)).get? name = ((ms.find? (·.1 = name)).map (·.2)).map sorted := by
  have mapped : (Json.obj (ms.map fun m => (m.1, sorted m.2))).get? name =
      ((ms.find? (·.1 = name)).map (·.2)).map sorted := by
    rw [get?, List.find?_map, Option.map_map, Option.map_map]
    rfl
  rw [sorted_obj, ← mapped]
  exact Keyed.get?_eq_of_perm (m := ⟨_, nodup_sorted distinct⟩)
    (n := ⟨_, names_sorted ms ▸ distinct⟩) (perm_sorted ms) name

theorem truthy_sorted (v : Json) : (sorted v).truthy = v.truthy := by
  cases v with
  | arr items =>
    rw [sorted, sortedItems_eq, truthy, truthy, List.isEmpty_map]
  | obj members =>
    rw [sorted_obj, truthy, truthy, (perm_sorted members).isEmpty_eq, List.isEmpty_map]
  | _ => rfl

theorem objectAt_sorted (distinct : (ms.map (·.1)).Nodup) (name : String) :
    (sorted (.obj ms)).objectAt name = sorted ((Json.obj ms).objectAt name) := by
  have empty : sorted (.obj []) = .obj [] := by
    rw [sorted_obj, List.map_nil, List.mergeSort_nil]
  rw [objectAt, objectAt, get?_sorted distinct, get?]
  cases (ms.find? (·.1 = name)).map (·.2) with
  | none => exact empty.symm
  | some v =>
    rw [Option.map_some, Option.filter_some, Option.filter_some, truthy_sorted]
    cases v.truthy with
    | true => rfl
    | false => exact empty.symm

mutual

theorem IsReadable.sorted : {v : Json} → IsReadable v → IsReadable (sorted v)
  | .null, h | .bool _, h | .int _, h | .float _, h | .str _, h => h
  | .arr items, h => AreReadable.sorted h
  | .obj members, h => by
    rw [Json.sorted]
    refine ⟨?_, ?_⟩
    · rw [sortedMembers_eq]
      exact nodup_sorted h.1
    · refine haveReadable_iff.mpr fun m member => ?_
      exact haveReadable_iff.mp (HaveReadable.sorted h.2) m
        ((List.mergeSort_perm _ _).mem_iff.mp member)

theorem AreReadable.sorted : {vs : List Json} → AreReadable vs → AreReadable (sortedItems vs)
  | [], h => h
  | _ :: _, h => ⟨h.1.sorted, AreReadable.sorted h.2⟩

theorem HaveReadable.sorted : {ms : List (String × Json)} → HaveReadable ms →
    HaveReadable (sortedMembers ms)
  | [], h => h
  | (_, _) :: _, h => ⟨h.1.sorted, HaveReadable.sorted h.2⟩

end

theorem read?_stable {v : Json} (readable : IsReadable v) :
    read? (stable v).toList = some (sorted v) := by
  rw [stable, String.toList_ofList]
  exact read?_compact readable.sorted

end Json

end Concordance
