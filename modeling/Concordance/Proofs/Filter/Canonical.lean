import Concordance.Proofs.Filter.Stable

/-! The canonical text of filters that were read: it is a filter text, it is its own canonical text,
and it keeps what the filters ask for. -/

namespace Concordance

/-- The filter with its values as they are written: the spacing of running text, blank choices and
empty choices are not. -/
def FilterValue.tidied (f : FilterValue) : FilterValue :=
  { f with values := match f.kind with
      | .text => f.values.map fun v => String.ofList (Text.spaced (Text.words v.toList))
      | .combobox => f.values.filter fun v => !(Text.trim v.toList).isEmpty
      | .select | .checkbox | .radio => f.values.filter (!·.isEmpty)
      | .range => f.values }

namespace Filter

open Reader

variable {fields : Keyed Field} {f : FilterValue}

theorem values_of_decode {text : Option String} {key : String}
    (found : (decode text fields).get? key = some f) :
    (f.kind = .text → ∃ v, f.values = [v]) ∧
      (f.kind = .range → ∃ low high, f.values = [low, high]) := by
  obtain ⟨clauses, shapes, read⟩ := exists_decode text fields
  rw [read] at found
  obtain ⟨c, member, d, rfl, -, fits, rfl⟩ := of_get?_decodeClauses found
  constructor
  · intro text
    have text : d.kind = .text := text
    simp [text, decodeValues]
  · intro range
    have range : d.kind = .range := range
    obtain ⟨low, high, values, -⟩ := (shapes c member).bounds (by rw [fits, range]; rfl)
    simp [range, decodeValues, values]

theorem isSome_clause? (writable : IsWritable fields f) :
    (clause? f).isSome = f.normal?.isSome := by
  rcases agrees writable with ⟨unwritten, nothing⟩ | ⟨text, g, written, normal, -⟩
  · rw [unwritten, nothing]
    rfl
  · rw [written, normal]
    rfl

theorem clause?_bind_normal? (writable : IsWritable fields f) :
    f.normal?.bind clause? = clause? f := by
  rcases agrees writable with ⟨unwritten, nothing⟩ | ⟨text, g, written, normal, -⟩
  · rw [unwritten, nothing]
    rfl
  · rw [normal, Option.bind_some, clause?_normal normal]

theorem normal?_of_decode {text : Option String} {key : String}
    (found : (decode text fields).get? key = some f) :
    f.normal? = if (clause? f).isSome then some f.tidied else none := by
  obtain ⟨single, bounded⟩ := values_of_decode found
  have same : ∀ g, f.normal? = some g → g = f.tidied := by
    intro g normal
    cases kind : f.kind with
    | text =>
      obtain ⟨v, values⟩ := single kind
      simp only [FilterValue.normal?, kind, Option.ite_none_left_eq_some,
        Option.some.injEq] at normal
      obtain ⟨-, rfl⟩ := normal
      simp only [FilterValue.tidied, kind, values, List.map_singleton]
      rfl
    | combobox | select | checkbox | radio =>
      simp only [FilterValue.normal?, kind, Option.ite_none_left_eq_some,
        Option.some.injEq] at normal
      obtain ⟨-, rfl⟩ := normal
      simp only [FilterValue.tidied, kind]
    | range =>
      obtain ⟨low, high, values⟩ := bounded kind
      simp only [FilterValue.normal?, kind, Option.ite_none_left_eq_some,
        Option.some.injEq] at normal
      obtain ⟨-, rfl⟩ := normal
      simp [FilterValue.tidied, kind, values]
  rw [isSome_clause? (isRead_decode found).2.toIsWritable]
  cases normal : f.normal? with
  | none => rfl
  | some g =>
    rw [same g normal]
    rfl

section Decoded

variable (text : Option String) (fields : Keyed Field)

theorem isWritable_decode : ∀ f ∈ (decode text fields).values, IsWritable fields f := by
  intro f member
  obtain ⟨key, found⟩ := Keyed.mem_values_iff.mp member
  exact (isRead_decode found).2.toIsWritable

theorem ids_decode : (decode text fields).values.map (·.id) = (decode text fields).keys := by
  rw [Keyed.values, Keyed.keys, List.map_map]
  apply List.map_congr_left
  intro e member
  exact (isRead_decode (Keyed.get?_eq_some_iff.mpr member)).1

theorem distinct_decode : ((decode text fields).values.map (·.id)).Nodup := by
  rw [ids_decode]
  exact Keyed.keys_nodup _

theorem entries_decode_encode?_decode :
    (decode (encode? (decode text fields).values) fields).entries =
      ((decode text fields).entries.filter fun e => (clause? e.2).isSome).map
        fun e => (e.1, e.2.tidied) := by
  have each : ∀ e ∈ (decode text fields).entries,
      (e.2.normal?.map fun g => (g.id, g)) =
        if (clause? e.2).isSome then some (e.1, e.2.tidied) else none := by
    intro e member
    have found := Keyed.get?_eq_some_iff.mpr member
    have name : e.2.tidied.id = e.1 := (isRead_decode found).1
    rw [normal?_of_decode found]
    split
    · rw [Option.map_some, name]
    · rfl
  rw [entries_decode_encode? (distinct_decode text fields) (isWritable_decode text fields),
    Keyed.values, List.map_filterMap, List.filterMap_map, ← List.filterMap_eq_map,
    List.filterMap_filter]
  exact List.filterMap_congr each

theorem encode?_decode_encode?_decode :
    encode? (decode (encode? (decode text fields).values) fields).values =
      encode? (decode text fields).values := by
  have writable := isWritable_decode text fields
  have clauses : ((decode text fields).values.filterMap FilterValue.normal?).filterMap clause? =
      (decode text fields).values.filterMap clause? := by
    rw [List.filterMap_filterMap]
    exact List.filterMap_congr fun f member => clause?_bind_normal? (writable f member)
  rw [values_decode_encode? (distinct_decode text fields) writable, encode?, encode?, clauses]

/-- Filters that were read have nothing to filter on, or a text that is a filter text, has itself as
its canonical text, and stands for those that have something to filter on, in their order. -/
theorem decode_canonical :
    match encode? (decode text fields).values with
    | none => ∀ f ∈ (decode text fields).values, clause? f = none
    | some canonical =>
      (∃ clauses, parse canonical = .ok clauses) ∧
        encode? (decode (some canonical) fields).values = some canonical ∧
        (decode (some canonical) fields).entries =
          ((decode text fields).entries.filter fun e => (clause? e.2).isSome).map
            fun e => (e.1, e.2.tidied) := by
  have entries := entries_decode_encode?_decode text fields
  have again := encode?_decode_encode?_decode text fields
  split
  · next unwritten =>
    exact List.filterMap_eq_nil_iff.mp (encode?_eq_none_iff.mp unwritten)
  · next canonical written =>
    rw [written] at entries again
    exact ⟨exists_parse_encode? (isWritable_decode text fields) written, again, entries⟩

end Decoded

/-- Another escaping of the same blank, values that say nothing, and a field that is given twice. -/
example : encode? (decode (some
    "title:x author:(a\\ b OR \" \")genre:(x \"\")year:[* TO 1]title:\" to  be\"")
    catalogue).values =
      some "+title:(\"to\" \"be\") +author:\"a\\\\ b\" +genre:\"x\" +year:[* TO 1]" := by
  decide +kernel

end Filter

end Concordance
