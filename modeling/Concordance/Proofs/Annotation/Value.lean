import Mathlib.Data.List.DropRight
import Concordance.Annotation.Value
import Concordance.Proofs.Annotation.Wildcard
import Concordance.Proofs.Text.Trim
import Concordance.Proofs.Text.Words

/-! Values of annotations, and what their regular expressions are decoded to. -/

namespace Concordance

open Text (Solid isWord isBlank spaced words trim)
open Quoted (isRegular)
open Wildcard (isOpen toRegex ofRegex)

/-- How a word is shown: all words that constrain nothing look alike. -/
def Wildcard.canonical (word : List Char) : List Char := if isOpen word then ['*'] else word

namespace AnnotationValue

open Wildcard (canonical)

variable {kind : AnnotationKind}

theorem kind_of_splitsWords (splits : kind.splitsWords) : kind = .text ∨ kind = .combobox := by
  cases kind with
  | text => exact .inl rfl
  | combobox => exact .inr rfl
  | select => cases splits
  | pos => cases splits

theorem kind_of_single (single : kind.splitsWords = false) : kind = .select ∨ kind = .pos := by
  cases kind with
  | text => cases single
  | combobox => cases single
  | select => exact .inl rfl
  | pos => exact .inr rfl

theorem encodeText_of_splitsWords (splits : kind.splitsWords) (text : List Char) :
    encodeText kind text = (words text).map encodeWord := by
  rcases kind_of_splitsWords splits with rfl | rfl <;> rfl

theorem decodeText_of_splitsWords (splits : kind.splitsWords)
    (regexes : List (Option (List Char))) :
    decodeText kind regexes = spaced (regexes.map fun r => (r.map ofRegex).getD ['*']) := by
  rcases kind_of_splitsWords splits with rfl | rfl <;> rfl

theorem eq_toRegex_of_encodeWord {word r : List Char} (h : encodeWord word = some r) :
    r = toRegex word := by
  rw [encodeWord] at h
  split at h
  · cases h
  · exact (Option.some.inj h).symm

theorem encodeWord_canonical (word : List Char) :
    encodeWord (canonical word) = encodeWord word := by
  cases free : isOpen word with
  | true =>
    rw [canonical, if_pos free, encodeWord, encodeWord, if_pos free]
    rfl
  | false => simp [canonical, free]

theorem shown_encodeWord (word : List Char) :
    ((encodeWord word).map ofRegex).getD ['*'] = canonical word := by
  cases free : isOpen word with
  | true => simp [canonical, encodeWord, free]
  | false => simp [canonical, encodeWord, free, Wildcard.ofRegex_toRegex]

theorem isWord_canonical {word : List Char} (h : isWord word) : isWord (canonical word) := by
  unfold canonical
  split
  · decide
  · exact h

theorem isWord_of_mem_canonical {ws : List (List Char)} (h : ∀ w ∈ ws, isWord w) :
    ∀ w ∈ ws.map canonical, isWord w := by
  intro w member
  obtain ⟨word, given, rfl⟩ := List.mem_map.mp member
  exact isWord_canonical (h word given)

theorem mem_encodeWord {ws : List (List Char)} {r : List Char}
    (member : some r ∈ ws.map encodeWord) : CaseMark.isMarked r = false ∧ isRegular r := by
  obtain ⟨word, -, encoded⟩ := List.mem_map.mp member
  rw [eq_toRegex_of_encodeWord encoded]
  exact ⟨Wildcard.isMarked_toRegex word, Wildcard.isRegular_toRegex word⟩

theorem decodeText_encodeWord (splits : kind.splitsWords) (ws : List (List Char)) :
    decodeText kind (ws.map encodeWord) = spaced (ws.map canonical) := by
  rw [decodeText_of_splitsWords splits, List.map_map]
  exact congrArg spaced (List.map_congr_left fun word _ => shown_encodeWord word)

theorem encodeText_spaced (splits : kind.splitsWords) {ws : List (List Char)}
    (h : ∀ w ∈ ws, isWord w) : encodeText kind (spaced (ws.map canonical)) = ws.map encodeWord := by
  rw [encodeText_of_splitsWords splits, Text.words_spaced (isWord_of_mem_canonical h), List.map_map]
  exact List.map_congr_left fun word _ => encodeWord_canonical word

def marked (sensitive : Bool) (regex : Option (List Char)) : Option String :=
  regex.map fun r => String.ofList (CaseMark.mark sensitive r)

theorem encode_eq (v : AnnotationValue) :
    v.encode = (encodeText v.kind v.value.toList).map (marked v.caseSensitive) := rfl

theorem toList_marked (sensitive : Bool) (regexes : List (Option (List Char))) :
    (regexes.map (marked sensitive)).map (Option.map String.toList) =
      regexes.map (Option.map (CaseMark.mark sensitive)) := by
  rw [List.map_map]
  apply List.map_congr_left
  intro regex _
  cases regex with
  | none => rfl
  | some r => exact congrArg some String.toList_ofList

theorem given_mark (sensitive : Bool) (regexes : List (Option (List Char))) :
    (regexes.map (Option.map (CaseMark.mark sensitive))).filterMap (fun r => r) =
      (regexes.filterMap fun r => r).map (CaseMark.mark sensitive) := by
  rw [List.filterMap_map, List.map_filterMap]
  rfl

theorem mark_insensitive (regexes : List (Option (List Char))) :
    regexes.map (Option.map (CaseMark.mark false)) = regexes := by
  induction regexes with
  | nil => rfl
  | cons r regexes ih =>
    rw [List.map_cons, ih]
    cases r <;> rfl

theorem strip_mark (regexes : List (Option (List Char))) :
    (regexes.map (Option.map (CaseMark.mark true))).map (Option.map CaseMark.strip) = regexes := by
  induction regexes with
  | nil => rfl
  | cons r regexes ih =>
    rw [List.map_cons, List.map_cons, ih]
    cases r <;> rfl

theorem skips_mark {sensitive : Bool} {regexes : List (Option (List Char))}
    (full : kind.splitsWords ∨ none ∉ regexes) : (!kind.splitsWords &&
      (regexes.map (Option.map (CaseMark.mark sensitive))).contains none) = false := by
  rcases full with splits | full
  · rw [splits]
    rfl
  · have absent : none ∉ regexes.map (Option.map (CaseMark.mark sensitive)) := by
      intro member
      obtain ⟨r, place, none⟩ := List.mem_map.mp member
      exact full (Option.map_eq_none_iff.mp none ▸ place)
    simp [absent]

theorem sensitive_mark (sensitive : Bool) {given : List (List Char)} (filled : given ≠ [])
    (unmarked : ∀ r ∈ given, CaseMark.isMarked r = false) :
    (!(given.map (CaseMark.mark sensitive)).isEmpty &&
      (given.map (CaseMark.mark sensitive)).all CaseMark.isMarked) = sensitive := by
  obtain ⟨r, rest, rfl⟩ := List.exists_cons_of_ne_nil filled
  cases sensitive with
  | true =>
    rw [List.all_map]
    exact List.all_eq_true.mpr fun r _ => CaseMark.isMarked_mark r
  | false =>
    have first := unmarked r List.mem_cons_self
    simp [CaseMark.mark, first]

theorem decode_marked (id : String) (sensitive : Bool) {regexes : List (Option (List Char))}
    (given : ∃ r, some r ∈ regexes)
    (unmarked : ∀ r, some r ∈ regexes → CaseMark.isMarked r = false)
    (full : kind.splitsWords ∨ none ∉ regexes) :
    decode id (regexes.map (marked sensitive)) kind =
      .ok ⟨id, String.ofList (decodeText kind regexes), sensitive, kind⟩ := by
  obtain ⟨r, member⟩ := given
  have filled : (regexes.filterMap fun r => r) ≠ [] :=
    List.ne_nil_of_mem (List.mem_filterMap.mpr ⟨some r, member, rfl⟩)
  have bare : ∀ r ∈ regexes.filterMap fun r => r, CaseMark.isMarked r = false := by
    intro r member
    obtain ⟨cell, inside, rfl⟩ := List.mem_filterMap.mp member
    exact unmarked r inside
  rw [decode]
  simp only [toList_marked, skips_mark full, given_mark, sensitive_mark sensitive filled bare,
    Bool.false_eq_true, if_false]
  cases sensitive with
  | true => rw [if_pos rfl, strip_mark]
  | false => rw [if_neg Bool.false_ne_true, mark_insensitive]

theorem isActive_spaced {v : AnnotationValue} {ws : List (List Char)}
    (text : v.value.toList = spaced ws) (h : ∀ w ∈ ws, isWord w) (filled : ws ≠ []) :
    v.isActive := by
  rw [isActive, text, Text.trim_spaced h]
  simpa using Text.spaced_ne_nil h filled

theorem decode_single (splits : kind.splitsWords) (name : String) {regex : String}
    (unmarked : CaseMark.isMarked regex.toList = false) :
    decode name [some regex] kind =
      .ok ⟨name, String.ofList (ofRegex regex.toList), false, kind⟩ := by
  have bare : [some regex] = [some regex.toList].map (marked false) := by
    simp [marked, CaseMark.mark]
  rw [bare, decode_marked name false ⟨regex.toList, List.mem_singleton_self _⟩ ?_ (.inl splits),
    decodeText_of_splitsWords splits]
  · rfl
  · intro r member
    rw [List.mem_singleton] at member
    exact Option.some.inj member ▸ unmarked

/-- A value that its regular expressions give back: some word is constrained, and what was typed
as a regular expression has no case mark and can be quoted. -/
def isRecoverable (v : AnnotationValue) : Bool :=
  match v.kind with
  | .text | .combobox => (words v.value.toList).any (!isOpen ·)
  | .select => true
  | .pos => !CaseMark.isMarked (trim v.value.toList) && isRegular (trim v.value.toList)

/-- The value as it comes back: without blanks around its text, and between words single spaces. -/
def normal (v : AnnotationValue) : AnnotationValue :=
  let text := match v.kind with
    | .text | .combobox => spaced ((words v.value.toList).map canonical)
    | .select | .pos => trim v.value.toList
  { v with value := String.ofList text }

variable {v : AnnotationValue}

theorem isRecoverable_of_splitsWords (splits : v.kind.splitsWords) :
    v.isRecoverable = (words v.value.toList).any (!isOpen ·) := by
  rw [isRecoverable]
  rcases kind_of_splitsWords splits with kind | kind <;> rw [kind]

theorem normal_of_splitsWords (splits : v.kind.splitsWords) : v.normal =
    { v with value := String.ofList (spaced ((words v.value.toList).map canonical)) } := by
  rw [normal]
  rcases kind_of_splitsWords splits with kind | kind <;> rw [kind]

theorem mem_encodeText (h : v.isRecoverable) {r : List Char}
    (member : some r ∈ encodeText v.kind v.value.toList) :
    CaseMark.isMarked r = false ∧ isRegular r := by
  cases splits : v.kind.splitsWords with
  | true =>
    rw [encodeText_of_splitsWords splits] at member
    exact mem_encodeWord member
  | false =>
    rcases kind_of_single splits with kind | kind
    · rw [kind, encodeText, List.mem_singleton, Option.some.injEq] at member
      subst member
      exact ⟨Regex.isMarked_escape _, Regex.isRegular_escape _⟩
    · rw [kind, encodeText, List.mem_singleton, Option.some.injEq] at member
      subst member
      simpa [isRecoverable, kind] using h

theorem encodeText_single (single : kind.splitsWords = false) (text : List Char) :
    ∃ r, encodeText kind text = [some r] := by
  rcases kind_of_single single with rfl | rfl
  · exact ⟨Regex.escape (trim text), rfl⟩
  · exact ⟨trim text, rfl⟩

theorem exists_mem_encodeText (h : v.isRecoverable) :
    ∃ r, some r ∈ encodeText v.kind v.value.toList := by
  cases splits : v.kind.splitsWords with
  | true =>
    rw [isRecoverable_of_splitsWords splits, List.any_eq_true] at h
    obtain ⟨word, member, constrains⟩ := h
    have closed : isOpen word = false := by simpa using constrains
    refine ⟨toRegex word, ?_⟩
    rw [encodeText_of_splitsWords splits]
    exact List.mem_map.mpr ⟨word, member, by simp [encodeWord, closed]⟩
  | false =>
    obtain ⟨r, encoded⟩ := encodeText_single splits v.value.toList
    exact ⟨r, by rw [encoded]; exact List.mem_singleton_self _⟩

theorem decodeText_encodeText (v : AnnotationValue) :
    decodeText v.kind (encodeText v.kind v.value.toList) = v.normal.value.toList := by
  cases splits : v.kind.splitsWords with
  | true =>
    rw [normal_of_splitsWords splits, encodeText_of_splitsWords splits,
      decodeText_encodeWord splits, String.toList_ofList]
  | false =>
    rcases kind_of_single splits with kind | kind
    · simp [normal, kind, encodeText, decodeText, Regex.unescape_escape, spaced, Text.joined]
    · simp [normal, kind, encodeText, decodeText, spaced, Text.joined]

theorem decode_encode_eq (h : v.isRecoverable) : decode v.id v.encode v.kind = .ok v.normal := by
  have full : v.kind.splitsWords ∨ none ∉ encodeText v.kind v.value.toList := by
    cases splits : v.kind.splitsWords with
    | true => exact .inl rfl
    | false =>
      obtain ⟨r, encoded⟩ := encodeText_single splits v.value.toList
      refine .inr ?_
      rw [encoded]
      simp
  rw [encode_eq, decode_marked v.id v.caseSensitive (exists_mem_encodeText h)
    (fun r member => (mem_encodeText h member).1) full, decodeText_encodeText,
    String.ofList_toList]
  rfl

theorem encode_normal (v : AnnotationValue) : v.normal.encode = v.encode := by
  cases splits : v.kind.splitsWords with
  | true =>
    have found : ∀ w ∈ words v.value.toList, isWord w := fun w => Text.isWord_of_mem_words
    rw [normal_of_splitsWords splits, encode_eq, encode_eq, String.toList_ofList,
      encodeText_spaced splits found, encodeText_of_splitsWords splits]
  | false =>
    rcases kind_of_single splits with kind | kind <;>
      simp [encode_eq, normal, kind, encodeText, Text.trim_trim]

end AnnotationValue

end Concordance
