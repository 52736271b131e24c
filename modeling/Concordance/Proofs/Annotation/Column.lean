import Mathlib.Data.List.DropRight
import Concordance.Proofs.Annotation.Value

/-! The column of an annotation holds its regular expressions, one for each token. Tokens at its end
that are not constrained may be left out. -/

namespace Concordance

open Text (isWord)
open Wildcard (canonical)

variable {column : List (Option String)}

/-- A column up to its last constraint. -/
def settled (column : List (Option String)) : List (Option String) :=
  column.rdropWhile Option.isNone

theorem settled_concat_some (column : List (Option String)) (regex : String) :
    settled (column ++ [some regex]) = column ++ [some regex] :=
  List.rdropWhile_concat_neg _ _ _ Bool.false_ne_true

theorem settled_concat_none (column : List (Option String)) :
    settled (column ++ [none]) = settled column :=
  List.rdropWhile_concat_pos _ _ _ rfl

theorem settled_pad (column : List (Option String)) (n : Nat) :
    settled (column ++ List.replicate n none) = settled column := by
  induction n with
  | zero => rw [List.replicate_zero, List.append_nil]
  | succ n ih => rw [List.replicate_succ', ← List.append_assoc, settled_concat_none, ih]

theorem settled_append_pad (column : List (Option String)) :
    settled column ++ List.replicate (column.length - (settled column).length) none = column := by
  induction column using List.reverseRecOn with
  | nil => rfl
  | append_singleton column last ih =>
    cases last with
    | some regex => simp [settled_concat_some]
    | none =>
      have short : (settled column).length ≤ column.length :=
        (List.rdropWhile_prefix _ column).length_le
      have more : (column ++ [none]).length - (settled column).length =
          column.length - (settled column).length + 1 := by
        rw [List.length_append, List.length_singleton]
        omega
      rw [settled_concat_none, more, List.replicate_succ', ← List.append_assoc, ih]

theorem length_settled_le (column : List (Option String)) :
    (settled column).length ≤ column.length :=
  (List.rdropWhile_prefix _ column).length_le

theorem mem_settled {regex : String} : some regex ∈ settled column ↔ some regex ∈ column := by
  constructor
  · intro member
    exact (List.rdropWhile_prefix _ column).subset member
  · intro member
    rw [← settled_append_pad column, List.mem_append] at member
    rcases member with member | member
    · exact member
    · cases List.eq_of_mem_replicate member

theorem settled_ne_nil_iff : settled column ≠ [] ↔ ∃ regex, some regex ∈ column := by
  constructor
  · intro filled
    by_contra unconstrained
    apply filled
    rw [settled, List.rdropWhile_eq_nil_iff]
    intro cell member
    cases cell with
    | none => rfl
    | some regex => exact absurd ⟨regex, member⟩ unconstrained
  · intro ⟨regex, member⟩ empty
    have kept := mem_settled.mpr member
    rw [empty] at kept
    exact List.not_mem_nil kept

theorem getElem?_settled (column : List (Option String)) (i : Nat) :
    (settled column)[i]?.join = column[i]?.join := by
  conv_rhs => rw [← settled_append_pad column]
  rw [List.getElem?_append]
  split
  · rfl
  · next beyond =>
    rw [List.getElem?_eq_none (Nat.le_of_not_lt beyond), List.getElem?_replicate]
    split <;> rfl

theorem settled_ne_nil_iff_cell : settled column ≠ [] ↔ ∃ i : Nat, column[i]?.join.isSome := by
  rw [settled_ne_nil_iff]
  constructor
  · intro ⟨regex, member⟩
    obtain ⟨i, cell⟩ := List.mem_iff_getElem?.mp member
    exact ⟨i, by rw [cell]; rfl⟩
  · intro ⟨i, given⟩
    obtain ⟨regex, cell⟩ := Option.isSome_iff_exists.mp given
    exact ⟨regex, List.mem_of_getElem? (Option.join_eq_some_iff.mp cell)⟩

theorem lt_length_settled {i : Nat} (here : column[i]?.join.isSome) :
    i < (settled column).length := by
  rw [← getElem?_settled] at here
  obtain ⟨regex, cell⟩ := Option.isSome_iff_exists.mp here
  exact (List.getElem?_eq_some_iff.mp (Option.join_eq_some_iff.mp cell)).1

theorem isSome_last (constrained : settled column ≠ []) :
    column[(settled column).length - 1]?.join.isSome := by
  have last := List.rdropWhile_last_not Option.isNone column constrained
  have cell : (settled column)[(settled column).length - 1]? =
      some ((settled column).getLast constrained) := by
    rw [← List.getLast?_eq_getElem?, List.getLast?_eq_some_getLast]
  rw [← getElem?_settled, cell, Option.join_some, Option.isSome_iff_ne_none]
  exact fun open_cell => last (Option.isNone_iff_eq_none.mpr open_cell)

theorem none_mem_settled_iff : none ∈ settled column ↔
    ∃ i j : Nat, column[i]?.join.isSome ∧ j < i ∧ ¬column[j]?.join.isSome := by
  constructor
  · intro member
    obtain ⟨j, cell⟩ := List.mem_iff_getElem?.mp member
    have last := isSome_last (List.ne_nil_of_mem member)
    have skipped : ¬column[j]?.join.isSome := by
      rw [← getElem?_settled, cell]
      exact Bool.false_ne_true
    obtain ⟨bound, -⟩ := List.getElem?_eq_some_iff.mp cell
    have apart : j ≠ (settled column).length - 1 := fun same => skipped (same ▸ last)
    exact ⟨(settled column).length - 1, j, last, by omega, skipped⟩
  · intro ⟨i, j, here, earlier, skipped⟩
    have bound := earlier.trans (lt_length_settled here)
    rw [← getElem?_settled, List.getElem?_eq_getElem bound] at skipped
    have none_there : (settled column)[j] = none := by simpa using skipped
    exact none_there ▸ List.getElem_mem bound

theorem settled_single (regex : String) : settled [some regex] = [some regex] :=
  settled_concat_some [] regex

def start (column : List (Option String)) : Nat := column.findIdx Option.isSome

namespace AnnotationValue

variable {v : AnnotationValue}

theorem encode_single (single : v.kind.splitsWords = false) : ∃ regex, v.encode = [some regex] := by
  obtain ⟨r, encoded⟩ := encodeText_single single v.value.toList
  exact ⟨String.ofList (CaseMark.mark v.caseSensitive r), by rw [encode_eq, encoded]; rfl⟩

theorem settled_encode_ne_nil (h : v.isRecoverable) : settled v.encode ≠ [] := by
  obtain ⟨r, member⟩ := exists_mem_encodeText h
  apply settled_ne_nil_iff.mpr
  refine ⟨String.ofList (CaseMark.mark v.caseSensitive r), ?_⟩
  rw [encode_eq]
  exact List.mem_map.mpr ⟨some r, member, rfl⟩

theorem exists_texts {α : Type} {f : List Char → α} {P : List Char → Prop} {cells : List α}
    (h : ∀ cell ∈ cells, ∃ t, P t ∧ f t = cell) :
    ∃ ts : List (List Char), (∀ t ∈ ts, P t) ∧ ts.map f = cells := by
  induction cells with
  | nil => exact ⟨[], nofun, rfl⟩
  | cons cell cells ih =>
    obtain ⟨t, holds, same⟩ := h cell List.mem_cons_self
    obtain ⟨ts, all, rest⟩ := ih fun c member => h c (List.mem_cons_of_mem cell member)
    refine ⟨t :: ts, ?_, by rw [List.map_cons, same, rest]⟩
    intro u member
    rcases List.mem_cons.mp member with rfl | member
    · exact holds
    · exact all u member

theorem exists_words {sensitive : Bool} {cells : List (Option String)}
    (h : ∀ cell ∈ cells, ∃ w, isWord w ∧ marked sensitive (encodeWord w) = cell) :
    ∃ ws : List (List Char), (∀ w ∈ ws, isWord w) ∧
      (ws.map encodeWord).map (marked sensitive) = cells := by
  obtain ⟨ws, all, same⟩ := exists_texts (P := fun w => isWord w) h
  exact ⟨ws, all, by rw [List.map_map]; exact same⟩

theorem exists_word_of_settled (splits : v.kind.splitsWords)
    (same : settled column = settled v.encode)
    {cell : Option String} (member : cell ∈ column) :
    ∃ w, isWord w ∧ marked v.caseSensitive (encodeWord w) = cell := by
  cases cell with
  | none => exact ⟨['*'], by decide, rfl⟩
  | some regex =>
    have given := mem_settled.mpr member
    rw [same, mem_settled, encode_eq, encodeText_of_splitsWords splits, List.map_map] at given
    obtain ⟨w, found, encoded⟩ := List.mem_map.mp given
    exact ⟨w, Text.isWord_of_mem_words found, encoded⟩

theorem isActive_normal (active : v.isActive) (single : v.kind.splitsWords = false) :
    v.normal.isActive := by
  rcases kind_of_single single with kind | kind <;>
    simpa [isActive, normal, kind, Text.trim_trim] using active

theorem decode_words {kind : AnnotationKind} (splits : kind.splitsWords) (id : String)
    (sensitive : Bool) {ws : List (List Char)} (all : ∀ w ∈ ws, isWord w)
    (constrained : ∃ regex, some regex ∈ (ws.map encodeWord).map (marked sensitive)) :
    ∃ d, decode id ((ws.map encodeWord).map (marked sensitive)) kind = .ok d ∧ d.id = id ∧
      d.encode = (ws.map encodeWord).map (marked sensitive) ∧ d.isActive := by
  obtain ⟨regex, given⟩ := constrained
  obtain ⟨cell, member, marks⟩ := List.mem_map.mp given
  cases cell with
  | none => cases marks
  | some r =>
    have filled : ws.map canonical ≠ [] := by
      intro empty
      rw [List.map_eq_nil_iff] at empty
      subst empty
      exact List.not_mem_nil member
    have decoded := decode_marked id sensitive ⟨r, member⟩
      (fun r member => (mem_encodeWord member).1) (.inl splits)
    rw [decodeText_encodeWord splits] at decoded
    refine ⟨_, decoded, rfl, ?_,
      isActive_spaced String.toList_ofList (isWord_of_mem_canonical all) filled⟩
    rw [encode_eq, String.toList_ofList, encodeText_spaced splits all]

/-- A column that agrees with a value up to its last constraint is decoded to a value with just
this column. Only annotations that split words may skip tokens. -/
theorem decode_column (h : v.isRecoverable) (active : v.isActive)
    (same : settled column = settled v.encode)
    (skips : v.kind.splitsWords ∨ column = settled v.encode) :
    ∃ d, decode v.id column v.kind = .ok d ∧ d.id = v.id ∧ d.encode = column ∧ d.isActive := by
  cases splits : v.kind.splitsWords with
  | true =>
    have cells : ∀ cell ∈ column, ∃ w, isWord w ∧ marked v.caseSensitive (encodeWord w) = cell :=
      fun cell => exists_word_of_settled splits same
    have constrained : ∃ regex, some regex ∈ column := by
      apply settled_ne_nil_iff.mp
      rw [same]
      exact settled_encode_ne_nil h
    obtain ⟨ws, all, rfl⟩ := exists_words cells
    exact decode_words splits v.id v.caseSensitive all constrained
  | false =>
    obtain ⟨regex, encoded⟩ := encode_single splits
    have whole : column = v.encode := by
      rw [splits] at skips
      rw [skips.resolve_left Bool.false_ne_true, encoded, settled_single]
    rw [whole]
    exact ⟨v.normal, decode_encode_eq h, rfl, encode_normal v, isActive_normal active splits⟩

end AnnotationValue

end Concordance
