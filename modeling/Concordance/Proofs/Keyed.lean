import Mathlib.Data.List.Nodup
import Concordance.Keyed

/-! Reading a mapping after it has been written. -/

namespace Concordance.Keyed

variable {α : Type} {m : Keyed α} {key : String}

theorem ext_entries {n : Keyed α} (same : m.entries = n.entries) : m = n := by
  cases m
  cases n
  cases same
  rfl

theorem entries_insert_of_not_mem (value : α) (new : key ∉ m.keys) :
    (m.insert key value).entries = m.entries ++ [(key, value)] :=
  put_of_not_mem key value m.entries new

theorem keys_insert_of_mem (value : α) (known : key ∈ m.keys) :
    (m.insert key value).keys = m.keys := map_put_of_mem key value m.entries known

theorem keys_insert_of_not_mem (value : α) (new : key ∉ m.keys) :
    (m.insert key value).keys = m.keys ++ [key] := by
  rw [keys, entries_insert_of_not_mem value new, List.map_append]
  rfl

theorem prefix_keys_insert (m : Keyed α) (key : String) (value : α) :
    m.keys <+: (m.insert key value).keys := by
  by_cases known : key ∈ m.keys
  · exact ⟨[], by rw [List.append_nil, keys_insert_of_mem value known]⟩
  · rw [keys_insert_of_not_mem value known]
    exact List.prefix_append _ _

theorem mem_keys_insert {name : String} {value : α} :
    name ∈ (m.insert key value).keys ↔ name ∈ m.keys ∨ name = key := by
  by_cases known : key ∈ m.keys
  · rw [keys_insert_of_mem value known]
    refine ⟨.inl, ?_⟩
    rintro (given | rfl)
    · exact given
    · exact known
  · rw [keys_insert_of_not_mem value known, List.mem_append, List.mem_singleton]

theorem get?_insert_of_ne {other : String} (m : Keyed α) (value : α) (h : other ≠ key) :
    (m.insert key value).get? other = m.get? other := by
  simp only [get?, insert]
  induction m.entries with
  | nil => simp [put, Ne.symm h]
  | cons e es ih =>
    by_cases same : e.1 = key
    · simp [put, same, Ne.symm h]
    · by_cases found : e.1 = other
      · subst found
        simp [put, same]
      · simpa [put, same, found] using ih

theorem of_get?_insert {other : String} {value given : α}
    (h : (m.insert key value).get? other = some given) :
    other = key ∧ given = value ∨ m.get? other = some given := by
  by_cases here : other = key
  · rw [here, get?_insert_self, Option.some.injEq] at h
    exact .inl ⟨here, h.symm⟩
  · rw [get?_insert_of_ne m value here] at h
    exact .inr h

theorem get?_eq_some_iff {value : α} : m.get? key = some value ↔ (key, value) ∈ m.entries := by
  obtain ⟨entries, distinct⟩ := m
  simp only [get?]
  induction entries with
  | nil => simp
  | cons e es ih =>
    rw [List.map_cons, List.nodup_cons] at distinct
    by_cases found : e.1 = key
    · have later : (key, value) ∉ es := by
        intro member
        rw [found] at distinct
        exact distinct.1 (List.mem_map_of_mem member)
      have same : e.2 = value ↔ (key, value) = e := by
        rw [← found]
        constructor
        · intro same
          subst same
          rfl
        · intro whole
          rw [← whole]
      simpa [found, later] using same
    · have other : (key, value) ≠ e := by
        intro same
        subst same
        exact found rfl
      simpa [found, other] using ih distinct.2

theorem forall_get?_iff {P : String → α → Prop} :
    (∀ name value, m.get? name = some value → P name value) ↔ ∀ e ∈ m.entries, P e.1 e.2 := by
  constructor
  · intro all e member
    exact all e.1 e.2 (get?_eq_some_iff.mpr member)
  · intro all name value found
    exact all (name, value) (get?_eq_some_iff.mp found)

theorem isSome_get?_iff : (m.get? key).isSome ↔ key ∈ m.keys := by
  rw [Option.isSome_iff_exists, keys, List.mem_map]
  constructor
  · rintro ⟨value, found⟩
    exact ⟨(key, value), get?_eq_some_iff.mp found, rfl⟩
  · rintro ⟨e, member, name⟩
    exact ⟨e.2, get?_eq_some_iff.mpr (name ▸ member)⟩

theorem mem_values_iff {value : α} : value ∈ m.values ↔ ∃ key, m.get? key = some value := by
  rw [values, List.mem_map]
  constructor
  · intro ⟨e, member, same⟩
    exact ⟨e.1, get?_eq_some_iff.mpr (same ▸ member)⟩
  · intro ⟨key, found⟩
    exact ⟨(key, value), get?_eq_some_iff.mp found, rfl⟩

theorem entries_foldl_insert {es : List (String × α)} (distinct : (es.map (·.1)).Nodup)
    (new : ∀ e ∈ es, e.1 ∉ m.keys) :
    (es.foldl (fun m e => m.insert e.1 e.2) m).entries = m.entries ++ es := by
  induction es generalizing m with
  | nil => exact (List.append_nil _).symm
  | cons e es ih =>
    rw [List.map_cons, List.nodup_cons] at distinct
    have first := entries_insert_of_not_mem e.2 (new e List.mem_cons_self)
    have later : ∀ d ∈ es, d.1 ∉ (m.insert e.1 e.2).keys := by
      intro d member
      rw [keys, first, List.map_append, List.mem_append, not_or]
      refine ⟨new d (List.mem_cons_of_mem e member), fun same => ?_⟩
      rw [List.map_singleton, List.mem_singleton] at same
      exact distinct.1 (same ▸ List.mem_map_of_mem member)
    rw [List.foldl_cons, ih distinct.2 later, first, List.append_assoc]
    rfl

theorem entries_ofList {es : List (String × α)} (distinct : (es.map (·.1)).Nodup) :
    (ofList es).entries = es :=
  entries_foldl_insert (m := empty) distinct fun _ _ => List.not_mem_nil

theorem ofList_entries (m : Keyed α) : ofList m.entries = m :=
  ext_entries (entries_ofList m.nodup)

/-- Each value is kept under its own name. -/
def NamedBy (name : α → String) (m : Keyed α) : Prop :=
  ∀ key value, m.get? key = some value → name value = key

theorem NamedBy.insert {name : α → String} (named : m.NamedBy name) (value : α) :
    (m.insert (name value) value).NamedBy name := by
  intro key given found
  rcases of_get?_insert found with ⟨here, rfl⟩ | before
  · exact here.symm
  · exact named key given before

theorem namedBy_index (name : α → String) (values : List α) : (index name values).NamedBy name := by
  have added (m : Keyed α) (named : m.NamedBy name) :
      (values.foldl (fun m v => m.insert (name v) v) m).NamedBy name := by
    induction values generalizing m with
    | nil => exact named
    | cons v vs ih => exact ih _ (named.insert v)
  rw [index, ofList, List.foldl_map]
  exact added empty nofun

theorem index_values {name : α → String} (named : m.NamedBy name) : index name m.values = m := by
  have entries : m.values.map (fun v => (name v, v)) = m.entries := by
    rw [values, List.map_map]
    refine (List.map_congr_left fun e member => ?_).trans (List.map_id _)
    exact Prod.ext (named e.1 e.2 (get?_eq_some_iff.mpr member)) rfl
  rw [index, entries, ofList_entries]

theorem values_filter (m : Keyed α) (p : α → Bool) : (m.filter p).values = m.values.filter p := by
  rw [values, values, filter, List.filter_map]
  rfl

theorem filter_eq_empty {p : α → Bool} (none : m.values.any p = false) : m.filter p = ∅ := by
  apply ext_entries
  refine List.filter_eq_nil_iff.mpr fun e member => ?_
  exact List.any_eq_false.mp none e.2 (List.mem_map_of_mem member)

theorem values_single (value : α) : (ofList [(key, value)]).values = [value] := rfl

variable {value : α}

theorem entries_single : (ofList [(key, value)]).entries = [(key, value)] := rfl

theorem get?_single_iff {name : String} {v : α} :
    (ofList [(key, value)]).get? name = some v ↔ name = key ∧ v = value := by
  rw [get?_eq_some_iff, entries_single, List.mem_singleton, Prod.mk.injEq]

theorem eq_single (only : ∀ name v, m.get? name = some v ↔ name = key ∧ v = value) :
    m = ofList [(key, value)] := by
  apply ext_entries
  rw [entries_single, ← List.perm_singleton]
  have distinct : m.entries.Nodup := m.nodup.of_map _
  rw [List.perm_ext_iff_of_nodup distinct (List.nodup_singleton _)]
  intro ⟨name, v⟩
  rw [← get?_eq_some_iff, only, List.mem_singleton, Prod.mk.injEq]

theorem find?_put_self (key : String) (value : α) (es : List (String × α)) :
    (put key value es).find? (·.1 = key) = some (key, value) := by
  induction es with
  | nil => simp [put]
  | cons e es ih => by_cases here : e.1 = key <;> simp [put, here, ih]

theorem find?_put_of_ne {key other : String} (value : α) (differ : other ≠ key)
    (es : List (String × α)) :
    (put key value es).find? (·.1 = other) = es.find? (·.1 = other) := by
  induction es with
  | nil => simp [put, differ.symm]
  | cons e es ih =>
    by_cases here : e.1 = key
    · simp [put, here, differ.symm]
    · simp only [put, here, if_false, List.find?_cons, ih]

theorem put_put (key : String) (old value : α) (es : List (String × α)) :
    put key value (put key old es) = put key value es := by
  induction es with
  | nil => simp [put]
  | cons e es ih => by_cases here : e.1 = key <;> simp [put, here, ih]

theorem put_comm {key other : String} (differ : other ≠ key) (value given : α)
    {es : List (String × α)} (known : key ∈ es.map (·.1)) :
    put key value (put other given es) = put other given (put key value es) := by
  induction es with
  | nil => cases known
  | cons e es ih =>
    by_cases here : e.1 = key
    · simp [put, here, differ.symm]
    · have later : key ∈ es.map (·.1) := (List.mem_cons.mp known).resolve_left (Ne.symm here)
      by_cases there : e.1 = other
      · simp [put, there, differ]
      · simp [put, here, there, ih later]

theorem insert_insert (m : Keyed α) (key : String) (old value : α) :
    (m.insert key old).insert key value = m.insert key value :=
  ext_entries (put_put key old value m.entries)

theorem insert_comm {other : String} (differ : other ≠ key) (value given : α)
    (known : key ∈ m.keys) : (m.insert other given).insert key value =
      (m.insert key value).insert other given :=
  ext_entries (put_comm differ value given known)

theorem insert_foldl {es : List (String × α)} (known : key ∈ m.keys) (apart : key ∉ es.map (·.1))
    (value : α) : (es.foldl (fun m e => m.insert e.1 e.2) m).insert key value =
      es.foldl (fun m e => m.insert e.1 e.2) (m.insert key value) := by
  induction es generalizing m with
  | nil => rfl
  | cons e es ih =>
    rw [List.map_cons, List.mem_cons, not_or] at apart
    have still : key ∈ (m.insert e.1 e.2).keys := mem_keys_insert.mpr (.inl known)
    rw [List.foldl_cons, List.foldl_cons, ih still apart.2,
      insert_comm (Ne.symm apart.1) value e.2 known]

theorem override_insert (m n : Keyed α) (key : String) (value : α) :
    (m.override n).insert key value = m.override (n.insert key value) := by
  have written (es : List (String × α)) (distinct : (es.map (·.1)).Nodup) (m : Keyed α) :
      (es.foldl (fun m e => m.insert e.1 e.2) m).insert key value =
        (put key value es).foldl (fun m e => m.insert e.1 e.2) m := by
    induction es generalizing m with
    | nil => rfl
    | cons e es ih =>
      rw [List.map_cons, List.nodup_cons] at distinct
      by_cases here : e.1 = key
      · have known : key ∈ (m.insert key e.2).keys := mem_keys_insert.mpr (.inr rfl)
        rw [here] at distinct
        rw [put, if_pos here, List.foldl_cons, List.foldl_cons, here,
          insert_foldl known distinct.1, insert_insert]
      · rw [put, if_neg here, List.foldl_cons, List.foldl_cons, ih distinct.2]
  exact written n.entries n.nodup m

end Concordance.Keyed
