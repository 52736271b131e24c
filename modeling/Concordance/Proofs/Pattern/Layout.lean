import Concordance.Pattern.Layout
import Concordance.Proofs.Annotation.Value
import Concordance.Proofs.Pattern.RoundTrip

/-! The layout of annotation values: what is asked of each token, and that the text of a layout is
read back as it was laid out. -/

namespace Concordance

open Text (isName isNameChar)
open Pattern.Reader (isTagChar)

namespace AnnotationValue

def constraint? (v : AnnotationValue) (i : Nat) : Option Attribute :=
  v.encode[i]?.join.map fun regex => ⟨v.id, "=", regex⟩

def isWritable (v : AnnotationValue) : Bool :=
  isName isNameChar v.id.toList && v.encode.all (·.all fun regex => Quoted.isRegular regex.toList)

theorem mem_encode_of_constraint? {v : AnnotationValue} {i : Nat} {a : Attribute}
    (h : v.constraint? i = some a) : some a.value ∈ v.encode := by
  obtain ⟨regex, found, rfl⟩ := Option.map_eq_some_iff.mp h
  exact List.mem_of_getElem? (Option.join_eq_some_iff.mp found)

theorem constraint?_isWritable {v : AnnotationValue} (writable : v.isWritable) {i : Nat}
    {a : Attribute} (h : v.constraint? i = some a) : a.isWritable := by
  have member := mem_encode_of_constraint? h
  obtain ⟨regex, -, rfl⟩ := Option.map_eq_some_iff.mp h
  simp only [isWritable, Bool.and_eq_true] at writable
  have regular : Quoted.isRegular regex.toList :=
    (List.all_eq_true.mp writable.2) (some regex) member
  simp [Attribute.isWritable, writable.1, regular]

end AnnotationValue

namespace Pattern

theorem length_overlay (id : String) (regexes : List (Option String))
    (cols : List (List Attribute)) :
    (overlay id regexes cols).length = max regexes.length cols.length := by
  induction regexes generalizing cols with
  | nil => simp [overlay]
  | cons regex regexes ih =>
    rw [overlay, List.length_cons, ih, List.length_tail, List.length_cons]
    omega

theorem getD_overlay (id : String) (regexes : List (Option String)) (cols : List (List Attribute))
    (i : Nat) : (overlay id regexes cols).getD i [] =
      cols.getD i [] ++ (regexes[i]?.join.map fun r => (⟨id, "=", r⟩ : Attribute)).toList := by
  induction regexes generalizing cols i with
  | nil => simp [overlay]
  | cons regex regexes ih =>
    rw [overlay]
    cases i with
    | zero => cases cols <;> rfl
    | succ i =>
      rw [List.getD_cons_succ, ih, List.getElem?_cons_succ]
      cases cols <;> simp

theorem length_columns_aux (values : List AnnotationValue) (cols : List (List Attribute))
    (i : Nat) :
    i < (values.foldl (fun cols v => overlay v.id v.encode cols) cols).length ↔
      i < cols.length ∨ ∃ v ∈ values, i < v.encode.length := by
  induction values generalizing cols with
  | nil => simp
  | cons v values ih =>
    have reach : i < max v.encode.length cols.length ↔
        i < v.encode.length ∨ i < cols.length := by
      omega
    rw [List.foldl_cons, ih, length_overlay, reach]
    constructor
    · intro either
      rcases either with (here | earlier) | ⟨w, member, there⟩
      · exact .inr ⟨v, List.mem_cons_self, here⟩
      · exact .inl earlier
      · exact .inr ⟨w, List.mem_cons_of_mem v member, there⟩
    · intro either
      rcases either with earlier | ⟨w, member, there⟩
      · exact .inl (.inr earlier)
      · rcases List.mem_cons.mp member with rfl | member
        · exact .inl (.inl there)
        · exact .inr ⟨w, member, there⟩

theorem lt_length_columns (values : List AnnotationValue) (i : Nat) :
    i < (columns values).length ↔ ∃ v ∈ values, v.isActive ∧ i < v.encode.length := by
  rw [columns, length_columns_aux]
  simp [List.mem_filter, and_assoc]

theorem getD_columns_aux (values : List AnnotationValue) (cols : List (List Attribute)) (i : Nat) :
    (values.foldl (fun cols v => overlay v.id v.encode cols) cols).getD i [] =
      cols.getD i [] ++ values.filterMap (·.constraint? i) := by
  induction values generalizing cols with
  | nil => simp
  | cons v values ih =>
    have head : v.encode[i]?.join.map (fun r => (⟨v.id, "=", r⟩ : Attribute)) = v.constraint? i :=
      rfl
    rw [List.foldl_cons, ih, getD_overlay, head, List.append_assoc, List.filterMap_cons]
    cases v.constraint? i <;> rfl

theorem getD_columns (values : List AnnotationValue) (i : Nat) :
    (columns values).getD i [] = (values.filter (·.isActive)).filterMap (·.constraint? i) := by
  rw [columns, getD_columns_aux]
  rfl

theorem getElem_columns (values : List AnnotationValue) {i : Nat}
    (bound : i < (columns values).length) :
    (columns values)[i] = (values.filter (·.isActive)).filterMap (·.constraint? i) := by
  rw [← getD_columns, List.getD, List.getElem?_eq_getElem bound]
  rfl

theorem exists_of_mem_columns {values : List AnnotationValue} {attributes : List Attribute}
    (member : attributes ∈ columns values) {a : Attribute} (asked : a ∈ attributes) :
    ∃ v ∈ values, v.isActive ∧ ∃ i, v.constraint? i = some a := by
  obtain ⟨i, bound, rfl⟩ := List.getElem_of_mem member
  rw [getElem_columns values bound] at asked
  obtain ⟨v, active, asks⟩ := List.mem_filterMap.mp asked
  obtain ⟨given, active⟩ := List.mem_filter.mp active
  exact ⟨v, given, active, i, asks⟩

theorem isWritable_conjunction {attributes : List Attribute}
    (writable : ∀ a ∈ attributes, a.isWritable) :
    (conjunction attributes).all Condition.isWritable := by
  cases attributes with
  | nil => rfl
  | cons a rest =>
    have first : a.isWritable := writable a List.mem_cons_self
    refine List.foldlRecOn rest _ (motive := fun c : Condition => c.isWritable) first ?_
    intro c left b member
    have right : b.isWritable := writable b (List.mem_cons_of_mem a member)
    simp [Condition.isWritable, left, right]

theorem isWritableUnder_conjunction {primary : String} {attributes : List Attribute}
    (equal : ∀ a ∈ attributes, a.operator = "=")
    (regular : ∀ a ∈ attributes,
      Quoted.isRegular a.value.toList ∧ CaseMark.isMarked a.value.toList = false)
    (named : (∀ a ∈ attributes, isName isNameChar a.name.toList) ∨
      ∃ a, attributes = [a] ∧ a.name = primary) :
    (Token.ofCondition (conjunction attributes)).isWritableUnder (some primary) := by
  rcases named with named | ⟨a, rfl, rfl⟩
  · have written : (conjunction attributes).all Condition.isWritable := by
      apply isWritable_conjunction
      intro a member
      simp [Attribute.isWritable, named a member, equal a member, (regular a member).1]
    apply Reader.isWritableUnder_of_isWritable
    simp [Token.isWritable, Token.ofCondition, written]
  · have operator := equal a List.mem_cons_self
    obtain ⟨quoted, unmarked⟩ := regular a List.mem_cons_self
    simp [Token.isWritableUnder, Token.isFramed, Token.ofCondition, conjunction, Token.bare?,
      operator, unmarked, quoted]

theorem isLeftNested_conjunction (attributes : List Attribute) :
    (conjunction attributes).all Condition.isLeftNested := by
  cases attributes with
  | nil => rfl
  | cons a rest =>
    refine List.foldlRecOn rest _ (motive := fun c : Condition => c.isLeftNested) rfl ?_
    intro c left b _
    simp [Condition.isLeftNested, Condition.isChain, left]

def ofValues (values : List AnnotationValue) (within : Option String) : Pattern :=
  ⟨layout values, within⟩

variable {values : List AnnotationValue} {within : Option String}

theorem layout_ne_nil {v : AnnotationValue} (given : v ∈ values) (active : v.isActive)
    (asks : v.encode ≠ []) : layout values ≠ [] := by
  have long : 0 < (columns values).length :=
    (lt_length_columns values 0).mpr ⟨v, given, active, List.length_pos_iff.mpr asks⟩
  rw [layout, ← List.length_pos_iff, List.length_map]
  exact long

theorem ofValues?_ne_empty (values : List AnnotationValue) (within primary : Option String) :
    ofValues? values within primary ≠ some "" := by
  rw [ofValues?]
  split
  · nofun
  · next filled => exact fun same => text_ne_empty filled primary (Option.some.inj same)

theorem ofValues_isWritable (filled : layout values ≠ [])
    (writable : ∀ v ∈ values, v.isActive → v.isWritable)
    (shape : within.all fun name => isName isTagChar name.toList) :
    (ofValues values within).isWritable := by
  have tokens : ∀ t ∈ layout values, t.isWritable := by
    intro t member
    obtain ⟨attributes, column, rfl⟩ := List.mem_map.mp member
    have written : (conjunction attributes).all Condition.isWritable := by
      apply isWritable_conjunction
      intro a asked
      obtain ⟨v, given, active, i, asks⟩ := exists_of_mem_columns column asked
      exact AnnotationValue.constraint?_isWritable (writable v given active) asks
    simp [Token.isWritable, Token.ofCondition, written]
  simp only [Pattern.isWritable, ofValues, Bool.and_eq_true, Bool.not_eq_true',
    List.isEmpty_eq_false_iff]
  exact ⟨⟨filled, List.all_eq_true.mpr tokens⟩, shape⟩

theorem ofValues_isLeftNested (values : List AnnotationValue) (within : Option String) :
    (ofValues values within).isLeftNested := by
  apply List.all_eq_true.mpr
  intro t member
  obtain ⟨attributes, -, rfl⟩ := List.mem_map.mp member
  exact isLeftNested_conjunction attributes

theorem parse?_of_isWritableUnder {primary : String} (filled : layout values ≠ [])
    (writable : ∀ t ∈ layout values, t.isWritableUnder (some primary))
    (shape : within.all fun name => isName isTagChar name.toList) :
    ∃ text, ofValues? values within (some primary) = some text ∧
      parse? (some text) primary = some (ofValues values within) := by
  have written : (ofValues values within).isWritableUnder (some primary) := by
    simp only [isWritableUnder, ofValues, Bool.and_eq_true, Bool.not_eq_true',
      List.isEmpty_eq_false_iff]
    exact ⟨⟨filled, List.all_eq_true.mpr writable⟩, shape⟩
  have read : parse ((ofValues values within).text (some primary)) primary =
      .ok (ofValues values within).leftNested := by
    apply parse_text_under written
    intro name given
    exact (Option.some.inj given)
  rw [leftNested_of_isLeftNested (ofValues_isLeftNested values within)] at read
  have tokens : (ofValues values within).tokens.isEmpty = false :=
    List.isEmpty_eq_false_iff.mpr filled
  refine ⟨(ofValues values within).text (some primary), ?_, ?_⟩
  · obtain ⟨t, ts, found⟩ := List.exists_cons_of_ne_nil filled
    rw [ofValues?, ofValues, found]
  · simp only [parse?, read, tokens]
    rfl

theorem parse?_ofValues? (primary : String) (filled : layout values ≠ [])
    (writable : ∀ v ∈ values, v.isActive → v.isWritable)
    (shape : within.all fun name => isName isTagChar name.toList) :
    ∃ text, ofValues? values within (some primary) = some text ∧
      parse? (some text) primary = some (ofValues values within) := by
  have written := ofValues_isWritable filled writable shape
  simp only [isWritable, Bool.and_eq_true, List.all_eq_true] at written
  refine parse?_of_isWritableUnder filled (fun t member => ?_) shape
  exact Reader.isWritableUnder_of_isWritable (written.1.2 t member) (some primary)

end Pattern

end Concordance
