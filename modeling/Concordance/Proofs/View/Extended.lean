import Concordance.View.Compile
import Concordance.Proofs.Pattern.Decoded
import Concordance.Proofs.Pattern.Layout

/-! The extended view survives its pattern: its values are compiled, read as a pattern and decoded,
and what comes back asks the same of every token. -/

namespace Concordance

open Text (isName isNameChar words)
open Wildcard (isOpen)
open Pattern (columns Columns Stands Gathered Covered Filled)
open Pattern.Reader (isTagChar)

namespace AnnotationValue

variable {v : AnnotationValue}

/-- A value of words whose last one constrains nothing. -/
def endsOpen (v : AnnotationValue) : Bool :=
  v.kind.splitsWords && (words v.value.toList).getLast?.any isOpen

theorem isWritable_of_isRecoverable (named : isName isNameChar v.id.toList)
    (h : v.isRecoverable) : v.isWritable := by
  have regular : v.encode.all (·.all fun regex => Quoted.isRegular regex.toList) := by
    rw [List.all_eq_true]
    intro cell member
    rw [encode_eq] at member
    obtain ⟨regex, given, rfl⟩ := List.mem_map.mp member
    cases regex with
    | none => rfl
    | some r =>
      simpa [marked, CaseMark.isRegular_mark] using (mem_encodeText h given).2
  rw [isWritable, named, regular]
  rfl

theorem settled_encode (closed : v.endsOpen = false) : settled v.encode = v.encode := by
  cases splits : v.kind.splitsWords with
  | false =>
    obtain ⟨regex, encoded⟩ := encode_single splits
    rw [encoded, settled_single]
  | true =>
    rw [encode_eq, encodeText_of_splitsWords splits]
    rcases List.eq_nil_or_concat (words v.value.toList) with none | ⟨before, w, text⟩
    · rw [none]
      rfl
    · have constrains : isOpen w = false := by
        simpa [endsOpen, splits, text] using closed
      have last : marked v.caseSensitive (encodeWord w) =
          some (String.ofList (CaseMark.mark v.caseSensitive (Wildcard.toRegex w))) := by
        rw [encodeWord, constrains]
        rfl
      rw [text, List.concat_eq_append, List.map_append, List.map_append, List.map_singleton,
        List.map_singleton, last]
      exact settled_concat_some _ _

theorem name_of_constraint? {i : Nat} {a : Attribute} (h : v.constraint? i = some a) :
    a.name = v.id := by
  obtain ⟨regex, -, rfl⟩ := Option.map_eq_some_iff.mp h
  rfl

theorem constraint?_eq_some_iff {i : Nat} {a : Attribute} : v.constraint? i = some a ↔
    a.name = v.id ∧ a.operator = "=" ∧ v.encode[i]?.join = some a.value := by
  rw [constraint?, Option.map_eq_some_iff]
  constructor
  · intro ⟨regex, found, same⟩
    subst same
    exact ⟨rfl, rfl, found⟩
  · intro ⟨name, operator, found⟩
    exact ⟨a.value, found, by rw [← name, ← operator]⟩

end AnnotationValue

def Keyed.column (values : Keyed AnnotationValue) (name : String) : List (Option String) :=
  (((values.get? name).filter (·.isActive)).map (·.encode)).getD []

def Keyed.Aligned (values : Keyed AnnotationValue) : Prop :=
  ∀ name v, values.get? name = some v → v.isActive → v.id = name

namespace Pattern

variable {values : Keyed AnnotationValue} {name : String} {v : AnnotationValue}

theorem column_of_active (found : values.get? name = some v) (active : v.isActive) :
    values.column name = v.encode := by
  simp [Keyed.column, found, Option.filter, active]

theorem exists_of_column_ne_nil (given : values.column name ≠ []) :
    ∃ v, values.get? name = some v ∧ v.isActive ∧ values.column name = v.encode := by
  cases found : values.get? name with
  | none => exact absurd (by simp [Keyed.column, found]) given
  | some v =>
    cases active : v.isActive with
    | true => exact ⟨v, rfl, active, column_of_active found active⟩
    | false => exact absurd (by simp [Keyed.column, found, Option.filter, active]) given

theorem lt_length_columns_iff (values : Keyed AnnotationValue) (i : Nat) :
    i < (columns values.values).length ↔ ∃ name, i < (values.column name).length := by
  rw [lt_length_columns]
  constructor
  · intro ⟨v, member, active, long⟩
    obtain ⟨name, found⟩ := Keyed.mem_values_iff.mp member
    exact ⟨name, by rwa [column_of_active found active]⟩
  · intro ⟨name, long⟩
    obtain ⟨v, found, active, column⟩ :=
      exists_of_column_ne_nil (List.ne_nil_of_length_pos (Nat.zero_lt_of_lt long))
    exact ⟨v, Keyed.mem_values_iff.mpr ⟨name, found⟩, active, by rwa [column] at long⟩

theorem length_column_le (values : Keyed AnnotationValue) (name : String) :
    (values.column name).length ≤ (columns values.values).length := by
  by_contra longer
  have inside := (lt_length_columns_iff values _).mpr ⟨name, Nat.lt_of_not_le longer⟩
  exact absurd inside (Nat.lt_irrefl _)

theorem nodup_ids (aligned : values.Aligned) :
    ((values.values.filter (·.isActive)).map (·.id)).Nodup := by
  have names : (values.values.filter (·.isActive)).map (·.id) =
      (values.entries.filter fun e => e.2.isActive).map (·.1) := by
    rw [Keyed.values, List.filter_map, List.map_map]
    apply List.map_congr_left
    intro e member
    obtain ⟨given, active⟩ := List.mem_filter.mp member
    exact aligned e.1 e.2 (Keyed.get?_eq_some_iff.mpr given) active
  rw [names]
  exact values.nodup.sublist (List.filter_sublist.map _)

theorem nodup_names {vs : List AnnotationValue} (distinct : (vs.map (·.id)).Nodup) (i : Nat) :
    ((vs.filterMap (·.constraint? i)).map (·.name)).Nodup := by
  rw [List.Nodup, List.pairwise_map] at distinct ⊢
  rw [List.pairwise_filterMap]
  apply distinct.imp
  intro v w apart a asks b asks'
  rwa [AnnotationValue.name_of_constraint? asks, AnnotationValue.name_of_constraint? asks']

theorem stands_columns (aligned : values.Aligned) (i : Nat) :
    ∀ attributes ∈ (columns values.values)[i]?, Stands values.column i attributes := by
  intro attributes member
  obtain ⟨bound, same⟩ := List.getElem?_eq_some_iff.mp member
  rw [getElem_columns] at same
  subst same
  constructor
  · exact nodup_names (nodup_ids aligned) i
  · intro a
    rw [List.mem_filterMap]
    constructor
    · intro ⟨v, member, asks⟩
      obtain ⟨given, active⟩ := List.mem_filter.mp member
      obtain ⟨key, found⟩ := Keyed.mem_values_iff.mp given
      obtain ⟨name, operator, cell⟩ := AnnotationValue.constraint?_eq_some_iff.mp asks
      have own : a.name = key := name.trans (aligned key v found active)
      rw [own, column_of_active found active]
      exact ⟨operator, cell⟩
    · intro ⟨operator, cell⟩
      have given : values.column a.name ≠ [] := by
        intro empty
        rw [empty] at cell
        cases cell
      obtain ⟨v, found, active, column⟩ := exists_of_column_ne_nil given
      refine ⟨v, List.mem_filter.mpr ⟨Keyed.mem_values_iff.mpr ⟨a.name, found⟩, active⟩, ?_⟩
      rw [column] at cell
      exact AnnotationValue.constraint?_eq_some_iff.mpr
        ⟨(aligned a.name v found active).symm, operator, cell⟩

def table (values : Keyed AnnotationValue) : List (Finset (String × String)) :=
  (columns values.values).map fun attributes =>
    (attributes.map fun a => (a.name, a.value)).toFinset

theorem constraints?_ofValues (values : Keyed AnnotationValue) (within : Option String) :
    (ofValues values.values within).tokens.map Token.constraints? = (table values).map some := by
  rw [ofValues, layout, table, List.map_map, List.map_map]
  apply List.map_congr_left
  intro attributes member
  apply constraints?_conjunction
  intro a asked
  obtain ⟨v, -, -, i, asks⟩ := exists_of_mem_columns member asked
  exact (AnnotationValue.constraint?_eq_some_iff.mp asks).2.1

theorem length_table (values : Keyed AnnotationValue) :
    (table values).length = (columns values.values).length := List.length_map _

theorem mem_table_iff (aligned : values.Aligned) {i : Nat} (bound : i < (table values).length)
    (name regex : String) :
    (name, regex) ∈ (table values)[i] ↔ (values.column name)[i]?.join = some regex := by
  have inside : i < (columns values.values).length := length_table values ▸ bound
  have stands := stands_columns aligned i _ (List.getElem?_eq_getElem inside)
  simp only [table, List.getElem_map]
  exact stands.mem_toFinset name regex

section

variable {corpus : Corpus} {full : String → List (Option String)} {n : Nat} {filled : Columns}
  (covered : Covered corpus full n filled)
  (recoded : ∀ name, values.column name = (filled.get? name).getD [])

include covered recoded

theorem settled_column (name : String) : settled (values.column name) = settled (full name) := by
  rw [recoded]
  cases given : filled.get? name with
  | none =>
    by_contra other
    obtain ⟨cells, found⟩ := covered.present name fun empty => other empty.symm
    rw [given] at found
    cases found
  | some cells => exact covered.same name cells given

theorem length_columns_of_covered : (columns values.values).length = n := by
  have place : ∀ i, i < (columns values.values).length ↔ i < n := by
    intro i
    rw [lt_length_columns_iff]
    constructor
    · intro ⟨name, long⟩
      rw [recoded] at long
      cases given : filled.get? name with
      | none =>
        rw [given] at long
        exact absurd long (Nat.not_lt_zero i)
      | some cells =>
        rw [given] at long
        exact Nat.lt_of_lt_of_le long (covered.bounded name cells given)
    · intro inside
      obtain ⟨name, cells, given, length⟩ := covered.reaches
      refine ⟨name, ?_⟩
      rw [recoded, given, Option.getD_some, length]
      exact inside
  apply Nat.le_antisymm
  · by_contra longer
    exact Nat.lt_irrefl n ((place n).mp (Nat.lt_of_not_le longer))
  · by_contra shorter
    exact Nat.lt_irrefl _ ((place _).mpr (Nat.lt_of_not_le shorter))

end

theorem table_eq {others : Keyed AnnotationValue} (aligned : values.Aligned)
    (aligned' : others.Aligned)
    (length : (columns others.values).length = (columns values.values).length)
    (same : ∀ name, settled (others.column name) = settled (values.column name)) :
    table others = table values := by
  have long : (table others).length = (table values).length := by
    rw [length_table, length_table, length]
  apply List.ext_getElem long
  intro i bound' bound
  ext ⟨name, regex⟩
  rw [mem_table_iff aligned' bound', mem_table_iff aligned bound, ← getElem?_settled, same,
    getElem?_settled]

/-- Every value that constrains some token is one of its annotation, and its regular expressions
give it back. -/
def Restorable (corpus : Corpus) (values : Keyed AnnotationValue) : Prop :=
  ∀ name v, values.get? name = some v → v.isActive → settled v.encode ≠ [] →
    v.id = name ∧ v.kind = corpus.kindOf name ∧ v.isRecoverable

section

variable {corpus : Corpus} {n : Nat} {filled : Columns} {cells : List (Option String)}
  (columns : Filled corpus values.column n filled)

include columns

theorem exists_of_filled (found : filled.get? name = some cells) :
    ∃ v, values.get? name = some v ∧ v.isActive ∧ values.column name = v.encode := by
  apply exists_of_column_ne_nil
  intro empty
  have constrained := columns.constrained name cells found
  rw [empty] at constrained
  exact constrained rfl

variable (restorable : Restorable corpus values)

include restorable

theorem decode_filled (found : filled.get? name = some cells) :
    ∃ d, AnnotationValue.decode name cells (corpus.kindOf name) = .ok d ∧ d.id = name ∧
      d.encode = cells ∧ d.isActive := by
  obtain ⟨v, own, active, column⟩ := exists_of_filled columns found
  have constrains := columns.constrained name cells found
  have same := columns.same name cells found
  have skips := columns.skips name cells found
  rw [column] at constrains same skips
  obtain ⟨id, kind, recoverable⟩ := restorable name v own active constrains
  rw [← kind] at skips ⊢
  rw [← id]
  exact AnnotationValue.decode_column recoverable active same skips

variable {decoded : Keyed AnnotationValue}
  (lookup : ∀ name v, decoded.get? name = some v ↔ ∃ cells, filled.get? name = some cells ∧
    AnnotationValue.decode name cells (corpus.kindOf name) = .ok v)

include lookup

theorem get?_decoded {d : AnnotationValue} (found : decoded.get? name = some d) :
    filled.get? name = some d.encode ∧ d.id = name ∧ d.isActive := by
  obtain ⟨cells, given, decodes⟩ := (lookup name d).mp found
  obtain ⟨d', decodes', own, encodes, active⟩ := decode_filled columns restorable given
  rw [decodes] at decodes'
  cases decodes'
  exact ⟨encodes ▸ given, own, active⟩

theorem column_decoded (name : String) : decoded.column name = (filled.get? name).getD [] := by
  cases given : filled.get? name with
  | none =>
    have absent : decoded.get? name = none := by
      rw [Option.eq_none_iff_forall_ne_some]
      intro d found
      rw [(get?_decoded columns restorable lookup found).1] at given
      cases given
    simp [Keyed.column, absent]
  | some cells =>
    obtain ⟨d, decodes, -⟩ := decode_filled columns restorable given
    have found := (lookup name d).mpr ⟨cells, given, decodes⟩
    obtain ⟨given', -, active⟩ := get?_decoded columns restorable lookup found
    rw [column_of_active found active, ← given, given']
    rfl

theorem length_decoded : (Pattern.columns decoded.values).length = n :=
  length_columns_of_covered columns.toCovered (column_decoded columns restorable lookup)

end

end Pattern

/-- An extended view that its pattern can say: its active values stand under their own names, which
are names of declared annotations of their kinds, and their regular expressions give them back. -/
structure View.Recoverable (s : Settings) (values : Keyed AnnotationValue)
    (within : Option String) : Prop where
  aligned : values.Aligned
  named : ∀ name v, values.get? name = some v → v.isActive → isName isNameChar name.toList
  declared : ∀ name v, values.get? name = some v → v.isActive → s.corpus.declares name
  kind : ∀ name v, values.get? name = some v → v.isActive → v.kind = s.corpus.kindOf name
  recoverable : ∀ name v, values.get? name = some v → v.isActive → v.isRecoverable
  within : within.all fun tag => isName isTagChar tag.toList
  active : ∃ name v, values.get? name = some v ∧ v.isActive

namespace View.Recoverable

variable {s : Settings} {values : Keyed AnnotationValue} {within : Option String}
  (h : View.Recoverable s values within)

include h

theorem isWritable : ∀ v ∈ values.values, v.isActive → v.isWritable := by
  intro v member active
  obtain ⟨name, found⟩ := Keyed.mem_values_iff.mp member
  apply AnnotationValue.isWritable_of_isRecoverable
  · rw [h.aligned name v found active]
    exact h.named name v found active
  · exact h.recoverable name v found active

theorem encode_ne_nil {name : String} {v : AnnotationValue} (found : values.get? name = some v)
    (active : v.isActive) : v.encode ≠ [] := by
  intro empty
  have constrained := AnnotationValue.settled_encode_ne_nil (h.recoverable name v found active)
  rw [empty] at constrained
  exact constrained rfl

theorem layout_ne_nil : Pattern.layout values.values ≠ [] := by
  obtain ⟨name, v, found, active⟩ := h.active
  exact Pattern.layout_ne_nil (Keyed.mem_values_iff.mpr ⟨name, found⟩) active
    (h.encode_ne_nil found active)

theorem declares_columns : ∀ attributes ∈ columns values.values, ∀ a ∈ attributes,
    s.corpus.declares a.name := by
  intro attributes member a asked
  obtain ⟨v, given, active, i, asks⟩ := Pattern.exists_of_mem_columns member asked
  obtain ⟨name, found⟩ := Keyed.mem_values_iff.mp given
  rw [AnnotationValue.name_of_constraint? asks, h.aligned name v found active]
  exact h.declared name v found active

theorem exists_longest : ∃ name, (values.column name).length = (columns values.values).length ∧
    settled (values.column name) ≠ [] ∧ ((s.corpus.kindOf name).splitsWords ∨
      settled (values.column name) = values.column name) := by
  have long : 0 < (columns values.values).length := by
    have filled := h.layout_ne_nil
    rw [Pattern.layout, Ne, List.map_eq_nil_iff] at filled
    exact List.length_pos_iff.mpr filled
  obtain ⟨name, last⟩ := (Pattern.lt_length_columns_iff values
    ((columns values.values).length - 1)).mp (by omega)
  have short := Pattern.length_column_le values name
  have given : values.column name ≠ [] := List.ne_nil_of_length_pos (by omega)
  obtain ⟨v, found, active, column⟩ := Pattern.exists_of_column_ne_nil given
  refine ⟨name, by omega, ?_, ?_⟩
  · rw [column]
    exact AnnotationValue.settled_encode_ne_nil (h.recoverable name v found active)
  · rw [← h.kind name v found active]
    cases splits : v.kind.splitsWords with
    | true => exact .inl rfl
    | false =>
      obtain ⟨regex, encoded⟩ := AnnotationValue.encode_single splits
      rw [column, encoded]
      exact .inr (settled_single regex)

theorem restorable : Pattern.Restorable s.corpus values := fun name v found active _ =>
  ⟨h.aligned name v found active, h.kind name v found active, h.recoverable name v found active⟩

theorem exists_decoded : ∃ filled decoded,
    (Pattern.ofValues values.values within).values s.corpus (some s.primary) = .ok decoded ∧
    Filled s.corpus values.column (columns values.values).length filled ∧
    ((∀ name, settled (values.column name) = values.column name) →
      ∀ name cells, filled.get? name = some cells → cells = values.column name) ∧
    ∀ name v, decoded.get? name = some v ↔ ∃ cells, filled.get? name = some cells ∧
      AnnotationValue.decode name cells (s.corpus.kindOf name) = .ok v := by
  have places : ∀ j, ∀ attributes ∈ (columns values.values)[j]?,
      Stands values.column (0 + j) attributes := by
    intro j attributes member
    rw [Nat.zero_add]
    exact Pattern.stands_columns h.aligned j attributes member
  obtain ⟨cols, gathers, gathered⟩ :=
    Pattern.gatherTokens_table Gathered.start places h.declares_columns
  rw [Nat.zero_add] at gathered
  obtain ⟨name, longest, constrained, skips⟩ := h.exists_longest
  obtain ⟨filled, fills, columns, exact⟩ := gathered.fill (Pattern.length_column_le values)
    (some s.primary) longest constrained skips
  have count : (Pattern.ofValues values.values within).tokens.length =
      (Pattern.columns values.values).length := List.length_map _
  obtain ⟨decoded, run, lookup⟩ := Pattern.values_of_filled (some s.primary)
    (p := Pattern.ofValues values.values within) gathers (by rw [count]; exact fills)
    fun name cells found => by
      obtain ⟨d, decodes, -⟩ := Pattern.decode_filled columns h.restorable found
      exact ⟨d, decodes⟩
  exact ⟨filled, decoded, run, columns, exact, lookup⟩

section

variable {n : Nat} {filled : Pattern.Columns} {decoded : Keyed AnnotationValue}
  (columns : Filled s.corpus values.column n filled)
  (lookup : ∀ name v, decoded.get? name = some v ↔ ∃ cells, filled.get? name = some cells ∧
    AnnotationValue.decode name cells (s.corpus.kindOf name) = .ok v)

include columns lookup

theorem aligned_decoded : decoded.Aligned :=
  fun _ _ found _ => (Pattern.get?_decoded columns h.restorable lookup found).2.1

theorem settled_decoded (name : String) :
    settled (decoded.column name) = settled (values.column name) :=
  Pattern.settled_column columns.toCovered (Pattern.column_decoded columns h.restorable lookup) name

theorem length_decoded : (Pattern.columns decoded.values).length = n :=
  Pattern.length_decoded columns h.restorable lookup

theorem isWritable_decoded : ∀ d ∈ decoded.values, d.isActive → d.isWritable := by
  intro d member _
  obtain ⟨name, found⟩ := Keyed.mem_values_iff.mp member
  obtain ⟨given, own, -⟩ := Pattern.get?_decoded columns h.restorable lookup found
  obtain ⟨v, found', active, column⟩ := Pattern.exists_of_filled columns given
  have writable := h.isWritable v (Keyed.mem_values_iff.mpr ⟨name, found'⟩) active
  simp only [AnnotationValue.isWritable, Bool.and_eq_true, List.all_eq_true] at writable ⊢
  refine ⟨own ▸ h.named name v found' active, ?_⟩
  intro cell inside
  cases cell with
  | none => rfl
  | some regex =>
    have same := columns.same name _ given
    rw [column] at same
    have original : some regex ∈ v.encode :=
      mem_settled.mp (same ▸ mem_settled.mpr inside)
    exact writable.2 (some regex) original

theorem get?_decoded_eq
    (exact : (∀ name, settled (values.column name) = values.column name) →
      ∀ name cells, filled.get? name = some cells → cells = values.column name)
    (closed : ∀ name v, values.get? name = some v → v.isActive → v.endsOpen = false)
    (name : String) : decoded.get? name =
      ((values.get? name).filter (·.isActive)).map AnnotationValue.normal := by
  have whole : ∀ name, settled (values.column name) = values.column name := by
    intro name
    by_cases given : values.column name = []
    · rw [given]
      rfl
    · obtain ⟨v, found, active, column⟩ := Pattern.exists_of_column_ne_nil given
      rw [column, AnnotationValue.settled_encode (closed name v found active)]
  cases given : filled.get? name with
  | none =>
    have absent : values.column name = [] := by
      by_contra other
      obtain ⟨cells, found⟩ := columns.present name (by rwa [whole])
      rw [given] at found
      cases found
    have inactive : (values.get? name).filter (·.isActive) = none := by
      rw [Option.eq_none_iff_forall_ne_some]
      intro v found
      obtain ⟨found, active⟩ := Option.filter_eq_some_iff.mp found
      rw [Pattern.column_of_active found active] at absent
      exact h.encode_ne_nil found active absent
    rw [inactive, Option.map_none, Option.eq_none_iff_forall_ne_some]
    intro d found
    rw [(Pattern.get?_decoded columns h.restorable lookup found).1] at given
    cases given
  | some cells =>
    obtain ⟨v, found, active, column⟩ := Pattern.exists_of_filled columns given
    have decodes := AnnotationValue.decode_encode_eq (h.recoverable name v found active)
    rw [h.aligned name v found active, h.kind name v found active, ← column,
      ← exact whole name cells given] at decodes
    rw [found, Option.filter_some, if_pos active, Option.map_some]
    exact (lookup name v.normal).mpr ⟨cells, given, decodes⟩

end

end View.Recoverable

/-- An extended view with an active value is compiled to a pattern that is read and decoded, and
what is decoded is compiled to a pattern of as many tokens that asks the same of each, in the same
context. Where no value ends in a word that constrains nothing, what is decoded are the active
values themselves, with single spaces between their words and none around them. -/
theorem View.extended_survives {s : Settings} {values : Keyed AnnotationValue}
    {within : Option String} (splitBatch : Bool) (h : View.Recoverable s values within) :
    ∃ text p decoded text' p',
      ((View.extended values within splitBatch).compile s).pattern = some text ∧
      Pattern.parse? (some text) s.primary = some p ∧
      p.values s.corpus (some s.primary) = .ok decoded ∧
      ((View.extended decoded p.within splitBatch).compile s).pattern = some text' ∧
      Pattern.parse? (some text') s.primary = some p' ∧
      p.within = within ∧ p'.within = within ∧
      p.tokens.map Token.constraints? = (Pattern.table values).map some ∧
      p'.tokens.map Token.constraints? = (Pattern.table values).map some ∧
      ((∀ name v, values.get? name = some v → v.isActive → v.endsOpen = false) →
        ∀ name, decoded.get? name =
          ((values.get? name).filter (·.isActive)).map AnnotationValue.normal) := by
  obtain ⟨text, compiled, read⟩ :=
    Pattern.parse?_ofValues? s.primary h.layout_ne_nil h.isWritable h.within
  obtain ⟨filled, decoded, run, columns, exact, lookup⟩ := h.exists_decoded
  have length := h.length_decoded columns lookup
  have laid : Pattern.layout decoded.values ≠ [] := by
    have filled := h.layout_ne_nil
    rw [Pattern.layout, Ne, List.map_eq_nil_iff, ← List.length_eq_zero_iff] at filled ⊢
    rwa [length]
  obtain ⟨text', compiled', read'⟩ :=
    Pattern.parse?_ofValues? s.primary laid (h.isWritable_decoded columns lookup) h.within
  have asked := Pattern.table_eq h.aligned (h.aligned_decoded columns lookup) length
    (h.settled_decoded columns lookup)
  refine ⟨text, Pattern.ofValues values.values within, decoded, text',
    Pattern.ofValues decoded.values within, compiled, read, run, compiled', read', rfl, rfl,
    Pattern.constraints?_ofValues values within, ?_, ?_⟩
  · rw [Pattern.constraints?_ofValues decoded within, asked]
  · exact fun closed => h.get?_decoded_eq columns lookup exact closed

def phraseSettings : Settings :=
  ⟨.ofDeclarations [⟨"word", "Word", .text, false, Annotation.sensitive⟩,
    ⟨"lemma", "Lemma", .combobox, false, Annotation.sensitive⟩,
    ⟨"pos", "Part of speech", .pos, false, Annotation.sensitive⟩,
    ⟨"genre", "Genre", .select, false, Annotation.sensitive⟩] [] 0 0, none, [], true, 5⟩

def phrase : Keyed AnnotationValue :=
  .ofList [("lemma", ⟨"lemma", " []  cat* ", true, .combobox⟩),
    ("pos", ⟨"pos", " DET|N.* ", false, .pos⟩),
    ("word", ⟨"word", "the *  sat.", false, .text⟩),
    ("genre", ⟨"genre", " ", false, .select⟩)]

theorem View.extended_survives_phrase : View.Recoverable phraseSettings phrase (some "s") ∧
    ∃ p decoded, Pattern.parse? (some ("[pos=\"DET|N.*\" & word=\"the\"]" ++
        "[lemma=\"(?-i)cat.*\"] \"sat\\.\" within <s/>")) "word" = some p ∧
      p.values phraseSettings.corpus (some "word") = .ok decoded ∧
      decoded.get? "lemma" = some ⟨"lemma", "* cat*", true, .combobox⟩ ∧
      decoded.get? "genre" = none := by
  have h : View.Recoverable phraseSettings phrase (some "s") := {
    aligned := Keyed.forall_get?_iff.mpr (by decide +kernel)
    named := Keyed.forall_get?_iff.mpr (by decide +kernel)
    declared := Keyed.forall_get?_iff.mpr (by decide +kernel)
    kind := Keyed.forall_get?_iff.mpr (by decide +kernel)
    recoverable := Keyed.forall_get?_iff.mpr (by decide +kernel)
    within := by decide +kernel
    active := ⟨"word", _, rfl, by decide +kernel⟩ }
  obtain ⟨text, p, decoded, -, -, compiled, read, run, -, -, -, -, -, -, back⟩ :=
    View.extended_survives false h
  have closed : ∀ name v, phrase.get? name = some v → v.isActive → v.endsOpen = false :=
    Keyed.forall_get?_iff.mpr (by decide +kernel)
  have written : ((View.extended phrase (some "s") false).compile phraseSettings).pattern =
      some ("[pos=\"DET|N.*\" & word=\"the\"]" ++
        "[lemma=\"(?-i)cat.*\"] \"sat\\.\" within <s/>") := by
    decide +kernel
  rw [written, Option.some.injEq] at compiled
  refine ⟨h, p, decoded, compiled ▸ read, run, ?_, ?_⟩
  · rw [back closed]
    decide +kernel
  · rw [back closed]
    decide +kernel

end Concordance
