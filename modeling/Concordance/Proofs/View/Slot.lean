import Concordance.Proofs.View.Ngram

/-! A single word as the content of a slot and as a value of its annotation. Both stand for the same
regular expression, unless the word leaves its place open and the kind of the annotation has no open
places: a slot with such a word is open all the same, while the value constrains its token. -/

namespace Concordance.AnnotationValue

open Text (isWord trim)
open Wildcard (isOpen)

variable {v : AnnotationValue}

theorem encodeSlot_word (word : isWord (trim v.value.toList)) : v.encodeSlot =
    if isOpen (trim v.value.toList) then none
    else marked v.caseSensitive (some (encodeTrimmed v.kind (trim v.value.toList))) := by
  cases text : trim v.value.toList with
  | nil =>
    rw [text] at word
    cases word
  | cons c cs =>
    rw [encodeSlot, text]
    rfl

theorem encode_word (word : isWord (trim v.value.toList)) : v.encode =
    [if v.kind.splitsWords && isOpen (trim v.value.toList) then none
      else marked v.caseSensitive (some (encodeTrimmed v.kind (trim v.value.toList)))] := by
  rw [encode_eq]
  cases splits : v.kind.splitsWords with
  | true =>
    have kind : encodeTrimmed v.kind = Wildcard.toRegex := by
      rcases kind_of_splitsWords splits with kind | kind <;> rw [kind] <;> rfl
    rw [encodeText_of_splitsWords splits, ← Text.words_trim, Text.words_of_isWord word, kind,
      List.map_singleton, List.map_singleton, encodeWord]
    cases isOpen (trim v.value.toList) <;> rfl
  | false =>
    have encoded : encodeText v.kind v.value.toList =
        [some (encodeTrimmed v.kind (trim v.value.toList))] := by
      rcases kind_of_single splits with kind | kind <;> rw [kind] <;> rfl
    rw [encoded]
    rfl

/-- A word is the same constraint in a slot and in a value, except for an open word of a kind that
has no open places. -/
theorem encode_eq_slot_iff (word : isWord (trim v.value.toList)) : v.encode = [v.encodeSlot] ↔
    v.kind.splitsWords ∨ isOpen (trim v.value.toList) = false := by
  rw [encode_word word, encodeSlot_word word]
  cases v.kind.splitsWords with
  | true => exact iff_of_true rfl (.inl rfl)
  | false =>
    cases isOpen (trim v.value.toList) with
    | true => simp [marked]
    | false => exact iff_of_true rfl (.inr rfl)

def padded : AnnotationValue := ⟨"word", " St*\t", true, .combobox⟩

theorem encode_eq_slot_padded : isWord (trim padded.value.toList) ∧
    padded.encode = [padded.encodeSlot] ∧ padded.encodeSlot = some "(?-i)St.*" := by
  have word : isWord (trim padded.value.toList) := by decide
  have splits : padded.kind.splitsWords := rfl
  exact ⟨word, (encode_eq_slot_iff word).mpr (.inl splits), by decide⟩

def listedStar : AnnotationValue := ⟨"pos", "*", false, .select⟩

/-- As a value it is a character to be found, and in a slot it is nothing at all. -/
theorem encode_ne_slot_star : isWord (trim listedStar.value.toList) ∧
    listedStar.encode = [some "\\*"] ∧ listedStar.encodeSlot = none ∧
    listedStar.encode ≠ [listedStar.encodeSlot] := by
  decide

end Concordance.AnnotationValue
