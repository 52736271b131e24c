import Concordance.Proofs.Annotation.Column

/-! Columns of regular expressions that typed values become. A kind that splits words gives every
column back; the other kinds join the cells of a column to a single one. -/

namespace Concordance

open Text (Solid isWord isBlank spaced trim)
open Quoted (isRegular)
open Wildcard (isOpen toRegex)

/-- A regular expression that a value of the kind becomes in one token: a word that constrains
something, a text, or a regular expression that needs no care, typed as it is. -/
def AnnotationKind.Encodes (kind : AnnotationKind) (regex : List Char) : Prop :=
  match kind with
  | .text | .combobox => ∃ w, isWord w ∧ isOpen w = false ∧ toRegex w = regex
  | .select => ∃ t, t ≠ [] ∧ trim t = t ∧ Regex.escape t = regex
  | .pos => isWord regex ∧ '\\' ∉ regex ∧ CaseMark.isMarked regex = false

theorem Quoted.isRegular_of_not_mem {cs : List Char} (h : '\\' ∉ cs) : isRegular cs := by
  induction cs with
  | nil => rfl
  | cons c cs ih =>
    rw [List.mem_cons, not_or] at h
    rw [isRegular_cons cs (Ne.symm h.1), ih h.2]

theorem CaseMark.isMarked_append {cs : List Char} (unmarked : isMarked cs = false)
    (rest : List Char) : isMarked (cs ++ ' ' :: rest) = false := by
  have apart (mark cs : List Char) (free : ' ' ∉ mark) (other : mark.isPrefixOf? cs = none) :
      mark.isPrefixOf? (cs ++ ' ' :: rest) = none := by
    induction mark generalizing cs with
    | nil => cases cs <;> cases other
    | cons m mark ih =>
      rw [List.mem_cons, not_or] at free
      cases cs with
      | nil => simp [List.isPrefixOf?, Ne.symm free.1]
      | cons c cs =>
        by_cases same : m = c
        · subst same
          simp only [List.isPrefixOf?, BEq.rfl, if_true] at other
          simpa [List.isPrefixOf?] using ih cs free.2 other
        · simp [List.isPrefixOf?, same]
  cases first : written.isPrefixOf? cs with
  | some r => simp [isMarked, strip?, first] at unmarked
  | none =>
    cases second : understood.isPrefixOf? cs with
    | some r => simp [isMarked, strip?, first, second] at unmarked
    | none =>
      simp [isMarked, strip?, apart written cs (by decide) first,
        apart understood cs (by decide) second]

theorem CaseMark.isMarked_spaced {cs : List Char} (unmarked : isMarked cs = false)
    (rest : List (List Char)) : isMarked (spaced (cs :: rest)) = false := by
  cases rest with
  | nil => exact unmarked
  | cons d rest => exact isMarked_append unmarked _

namespace AnnotationKind

variable {kind : AnnotationKind}

theorem encodes_of_splitsWords (splits : kind.splitsWords) (regex : List Char) :
    kind.Encodes regex ↔ ∃ w, isWord w ∧ isOpen w = false ∧ toRegex w = regex := by
  rcases AnnotationValue.kind_of_splitsWords splits with rfl | rfl <;> rfl

end AnnotationKind

instance (kind : AnnotationKind) (regex : List Char) : Decidable (kind.Encodes regex) :=
  have word : isWord (Wildcard.ofRegex regex) ∧ isOpen (Wildcard.ofRegex regex) = false ∧
        toRegex (Wildcard.ofRegex regex) = regex ↔
      ∃ w, isWord w ∧ isOpen w = false ∧ toRegex w = regex :=
    ⟨fun h => ⟨_, h⟩, fun ⟨w, h⟩ => by
      rw [← h.2.2, Wildcard.ofRegex_toRegex]
      exact ⟨h.1, h.2.1, rfl⟩⟩
  have text : Regex.unescape regex ≠ [] ∧ trim (Regex.unescape regex) = Regex.unescape regex ∧
        Regex.escape (Regex.unescape regex) = regex ↔
      ∃ t, t ≠ [] ∧ trim t = t ∧ Regex.escape t = regex :=
    ⟨fun h => ⟨_, h⟩, fun ⟨t, h⟩ => by
      rw [← h.2.2, Regex.unescape_escape]
      exact ⟨h.1, h.2.1, rfl⟩⟩
  match kind with
  | .text => decidable_of_iff _ word
  | .combobox => decidable_of_iff _ word
  | .select => decidable_of_iff _ text
  | .pos => inferInstanceAs (Decidable (_ ∧ _ ∧ _))

namespace AnnotationValue

open Wildcard (canonical)

variable {kind : AnnotationKind} {name : String} {cells : List (Option String)}
  {d : AnnotationValue}

theorem decode_unmarked (id : String) {regexes : List (Option (List Char))}
    (unmarked : ∀ r, some r ∈ regexes → CaseMark.isMarked r = false)
    (full : kind.splitsWords ∨ none ∉ regexes) :
    decode id (regexes.map (marked false)) kind =
      .ok ⟨id, String.ofList (decodeText kind regexes), false, kind⟩ := by
  by_cases given : ∃ r, some r ∈ regexes
  · exact decode_marked id false given unmarked full
  · have none : (regexes.filterMap fun r => r) = [] := by
      rw [List.filterMap_eq_nil_iff]
      intro cell member
      cases cell with
      | none => rfl
      | some r => exact absurd ⟨r, member⟩ given
    have skips : (!kind.splitsWords &&
        (regexes.map (Option.map (CaseMark.mark false))).contains .none) = false := skips_mark full
    rw [mark_insensitive] at skips
    rw [decode]
    simp only [toList_marked, mark_insensitive, skips, none, List.isEmpty_nil, Bool.not_true,
      Bool.false_and, Bool.false_eq_true, if_false]

theorem full_of_decode (decoded : decode name cells kind = .ok d) :
    kind.splitsWords ∨ none ∉ cells := by
  cases splits : kind.splitsWords with
  | true => exact .inl rfl
  | false =>
    refine .inr fun member => ?_
    have skips : (cells.map (Option.map String.toList)).contains none :=
      List.contains_iff_mem.mpr (List.mem_map.mpr ⟨none, member, rfl⟩)
    rw [decode] at decoded
    simp only [splits, skips, Bool.not_false, Bool.and_self, if_true] at decoded
    cases decoded

theorem decode_iff : (∃ d, decode name cells kind = .ok d) ↔ kind.splitsWords ∨ none ∉ cells := by
  refine ⟨fun ⟨d, decoded⟩ => full_of_decode decoded, fun full => ?_⟩
  have skips : (!kind.splitsWords &&
      (cells.map (Option.map String.toList)).contains none) = false := by
    rcases full with splits | full
    · rw [splits]
      rfl
    · rw [Bool.and_eq_false_iff]
      refine .inr (Bool.eq_false_iff.mpr fun member => full ?_)
      simpa using member
  rw [decode]
  simp only [skips, Bool.false_eq_true, if_false]
  exact ⟨_, rfl⟩

structure Shows (kind : AnnotationKind) (name : String) (cells : List (Option String))
    (d : AnnotationValue) : Prop where
  id : d.id = name
  active : d.isActive
  regular : ∀ r, some r ∈ d.encode →
    isRegular r.toList ∧ CaseMark.isMarked r.toList = false
  single : kind.splitsWords = false → ∃ r, d.encode = [some r]
  back : kind.splitsWords ∨ cells.length ≤ 1 → d.encode = cells

theorem shows_words (splits : kind.splitsWords) (filled : cells ≠ [])
    (edited : ∀ r, some r ∈ cells → kind.Encodes r.toList)
    (decoded : decode name cells kind = .ok d) : Shows kind name cells d := by
  have each : ∀ cell ∈ cells, ∃ w, isWord w ∧ marked false (encodeWord w) = cell := by
    intro cell member
    cases cell with
    | none => exact ⟨['*'], by decide, rfl⟩
    | some r =>
      obtain ⟨w, word, closed, same⟩ :=
        (AnnotationKind.encodes_of_splitsWords splits _).mp (edited r member)
      refine ⟨w, word, ?_⟩
      simp [encodeWord, closed, same, marked, CaseMark.mark]
  obtain ⟨ws, all, rfl⟩ := exists_words each
  rw [decode_unmarked name (fun r member => (mem_encodeWord member).1) (.inl splits),
    decodeText_encodeWord splits, Except.ok.injEq] at decoded
  subst decoded
  have some_word : ws.map canonical ≠ [] := by
    rintro empty
    rw [List.map_eq_nil_iff] at empty
    subst empty
    exact filled rfl
  have encoded : encode ⟨name, String.ofList (spaced (ws.map canonical)), false, kind⟩ =
      (ws.map encodeWord).map (marked false) := by
    rw [encode_eq, String.toList_ofList, encodeText_spaced splits all]
  constructor
  · rfl
  · exact isActive_spaced String.toList_ofList (isWord_of_mem_canonical all) some_word
  · intro r member
    rw [encoded, List.mem_map] at member
    obtain ⟨cell, member, marks⟩ := member
    obtain ⟨r', rfl, rfl⟩ := Option.map_eq_some_iff.mp marks
    rw [String.toList_ofList, CaseMark.mark, if_neg Bool.false_ne_true]
    exact (mem_encodeWord member).symm
  · intro single
    rw [splits] at single
    cases single
  · exact fun _ => encoded

theorem shows_joined (single : kind.splitsWords = false) {ts : List (List Char)} (filled : ts ≠ [])
    (solid : ∀ t ∈ ts, t ≠ [] ∧ Solid isBlank t) {f : List Char → List Char}
    (encodes : ∀ text, encodeText kind text = [some (f (trim text))])
    (regular : isRegular (f (spaced ts)) ∧ CaseMark.isMarked (f (spaced ts)) = false) :
    Shows kind name (ts.map fun t => some (String.ofList (f t)))
      ⟨name, String.ofList (spaced ts), false, kind⟩ := by
  have whole : trim (spaced ts) = spaced ts :=
    (Text.solid_spaced (fun t member => (solid t member).1)
      fun t member => (solid t member).2).trimBy
  have encoded : encode ⟨name, String.ofList (spaced ts), false, kind⟩ =
      [some (String.ofList (f (spaced ts)))] := by
    rw [encode_eq, String.toList_ofList, encodes, whole]
    rfl
  obtain ⟨t, rest, rfl⟩ := List.exists_cons_of_ne_nil filled
  constructor
  · rfl
  · have nonempty : spaced (t :: rest) ≠ [] :=
      Text.joined_ne_nil rest (solid t List.mem_cons_self).1
    rw [isActive, String.toList_ofList, whole]
    simp [nonempty]
  · intro r member
    rw [encoded, List.mem_singleton, Option.some.injEq] at member
    rw [member, String.toList_ofList]
    exact regular
  · exact fun _ => ⟨_, encoded⟩
  · intro few
    have last : rest = [] := by
      rw [single] at few
      simpa using few
    subst last
    exact encoded

theorem exists_texts_of_full {P : List Char → Prop} {f : List Char → List Char}
    (full : none ∉ cells) (each : ∀ r, some r ∈ cells → ∃ t, P t ∧ f t = r.toList) :
    ∃ ts : List (List Char), (∀ t ∈ ts, P t) ∧
      (ts.map fun t => some (String.ofList (f t))) = cells := by
  apply exists_texts
  intro cell member
  cases cell with
  | none => exact absurd member full
  | some r =>
    obtain ⟨t, holds, same⟩ := each r member
    exact ⟨t, holds, by rw [same, String.ofList_toList]⟩

theorem decode_full (kind : AnnotationKind) (name : String) {ts : List (List Char)}
    {f : List Char → List Char} (unmarked : ∀ t ∈ ts, CaseMark.isMarked (f t) = false) :
    decode name (ts.map fun t => some (String.ofList (f t))) kind =
      .ok ⟨name, String.ofList (decodeText kind (ts.map fun t => some (f t))), false, kind⟩ := by
  have cells : (ts.map fun t => some (f t)).map (marked false) =
      ts.map fun t => some (String.ofList (f t)) := by
    rw [List.map_map]
    rfl
  rw [← cells]
  refine decode_unmarked name (fun r member => ?_) (.inr fun member => ?_)
  · obtain ⟨t, given, same⟩ := List.mem_map.mp member
    exact Option.some.inj same ▸ unmarked t given
  · obtain ⟨t, -, skipped⟩ := List.mem_map.mp member
    cases skipped

theorem shows_select (filled : cells ≠ []) (full : none ∉ cells)
    (edited : ∀ r, some r ∈ cells → AnnotationKind.select.Encodes r.toList)
    (decoded : decode name cells .select = .ok d) : Shows .select name cells d := by
  have each : ∀ r, some r ∈ cells → ∃ t, (t ≠ [] ∧ trim t = t) ∧ Regex.escape t = r.toList := by
    intro r member
    obtain ⟨t, nonempty, trimmed, escaped⟩ := edited r member
    exact ⟨t, ⟨nonempty, trimmed⟩, escaped⟩
  obtain ⟨ts, typed, rfl⟩ := exists_texts_of_full full each
  have text : decodeText .select (ts.map fun t => some (Regex.escape t)) = spaced ts := by
    simp [decodeText, Regex.unescape_escape, List.filterMap_map]
  rw [decode_full .select name fun t _ => Regex.isMarked_escape t, text,
    Except.ok.injEq] at decoded
  subst decoded
  have solid : ∀ t ∈ ts, t ≠ [] ∧ Solid isBlank t := fun t member =>
    ⟨(typed t member).1, (typed t member).2 ▸ Text.solid_trimBy isBlank t⟩
  exact shows_joined rfl (by simpa using filled) solid (fun _ => rfl)
    ⟨Regex.isRegular_escape _, Regex.isMarked_escape _⟩

theorem shows_pos (filled : cells ≠ []) (full : none ∉ cells)
    (edited : ∀ r, some r ∈ cells → AnnotationKind.pos.Encodes r.toList)
    (decoded : decode name cells .pos = .ok d) : Shows .pos name cells d := by
  obtain ⟨ts, typed, rfl⟩ :=
    exists_texts_of_full (f := fun t => t) full fun r member => ⟨_, edited r member, rfl⟩
  have text : decodeText .pos (ts.map fun t => some t) = spaced ts := by
    simp [decodeText, List.filterMap_map]
  rw [decode_full .pos name fun t member => (typed t member).2.2, text,
    Except.ok.injEq] at decoded
  subst decoded
  have nonempty : ts ≠ [] := by simpa using filled
  have solid : ∀ t ∈ ts, t ≠ [] ∧ Solid isBlank t := fun t member =>
    ⟨Text.isWord_ne_nil (typed t member).1, Text.solid_of_isWord (typed t member).1⟩
  have plain : '\\' ∉ spaced ts := by
    intro member
    rcases Text.mem_joined member with blank | ⟨u, given, inside⟩
    · exact absurd blank (by decide)
    · exact (typed u given).2.1 inside
  obtain ⟨t, rest, rfl⟩ := List.exists_cons_of_ne_nil nonempty
  have unmarked := CaseMark.isMarked_spaced (typed t List.mem_cons_self).2.2 rest
  exact shows_joined (f := fun t => t) rfl nonempty solid (fun _ => rfl)
    ⟨Quoted.isRegular_of_not_mem plain, unmarked⟩

/-- A column of typed regular expressions is decoded to a value that gives it back, unless several
of them are joined in a value of a kind that holds a single token. -/
theorem shows_of_decode (filled : cells ≠ [])
    (edited : ∀ r, some r ∈ cells → kind.Encodes r.toList)
    (decoded : decode name cells kind = .ok d) : Shows kind name cells d := by
  cases splits : kind.splitsWords with
  | true => exact shows_words splits filled edited decoded
  | false =>
    have full : none ∉ cells :=
      (full_of_decode decoded).resolve_left (Bool.eq_false_iff.mp splits)
    rcases kind_of_single splits with rfl | rfl
    · exact shows_select filled full edited decoded
    · exact shows_pos filled full edited decoded

end AnnotationValue

end Concordance
