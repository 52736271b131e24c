import Concordance.Proofs.Annotation.Value

/-! Case marks on single words. A value tells capitals apart in all of its words or in none. Words
whose marks are all alike come back with them; where marks are mixed, each mark is kept as part of
its word and from then on stands for its own characters. -/

namespace Concordance

open Text (isWord spaced words)
open Wildcard (isOpen toRegex ofRegex)

structure MarkedWord where
  sensitive : Bool
  word : List Char
  isWord : isWord word
  closed : isOpen word = false

namespace MarkedWord

variable {w : MarkedWord}

def regex (w : MarkedWord) : List Char := CaseMark.mark w.sensitive (toRegex w.word)

/-- The word with its mark before it, as users see it where not all words are marked. -/
def shown (w : MarkedWord) : List Char := CaseMark.mark w.sensitive w.word

theorem ofRegex_regex (w : MarkedWord) : ofRegex w.regex = w.shown := by
  rw [regex, shown]
  cases w.sensitive with
  | true =>
    have behind : ofRegex (CaseMark.written ++ toRegex w.word) =
        CaseMark.written ++ ofRegex (toRegex w.word) := rfl
    exact behind.trans (congrArg _ (Wildcard.ofRegex_toRegex w.word))
  | false => exact Wildcard.ofRegex_toRegex w.word

theorem isWord_shown (w : MarkedWord) : Text.isWord w.shown := by
  rw [shown]
  cases w.sensitive with
  | true =>
    have nonblank := (Bool.and_eq_true_iff.mp w.isWord).2
    rw [CaseMark.mark, if_pos rfl, Text.isWord, List.all_append, nonblank]
    rfl
  | false => exact w.isWord

theorem encodeWord_shown (w : MarkedWord) :
    AnnotationValue.encodeWord w.shown = some (toRegex w.shown) := by
  have closed : isOpen w.shown = false := by
    rw [shown]
    cases w.sensitive with
    | true => rfl
    | false => exact w.closed
  rw [AnnotationValue.encodeWord, closed]
  rfl

/-- The characters of a mark are escaped if the mark stands before a word that is shown. -/
theorem toRegex_shown_eq_iff : toRegex w.shown = w.regex ↔ w.sensitive = false := by
  rw [shown, regex]
  cases w.sensitive with
  | true =>
    refine iff_of_false (fun same => ?_) nofun
    have first : some '\\' = some '(' := congrArg List.head? same
    exact absurd first (by decide)
  | false => exact iff_of_true rfl rfl

theorem isMarked_regex : CaseMark.isMarked w.regex = w.sensitive := by
  rw [regex]
  cases w.sensitive with
  | true => exact CaseMark.isMarked_mark _
  | false => exact Wildcard.isMarked_toRegex w.word

end MarkedWord

namespace AnnotationValue

variable {kind : AnnotationKind} {ws : List (Option MarkedWord)}

def cellsOf (ws : List (Option MarkedWord)) : List (Option String) :=
  ws.map (Option.map fun w => String.ofList w.regex)

def place (w : Option MarkedWord) : List Char := (w.map MarkedWord.shown).getD ['*']

theorem isWord_place (w : Option MarkedWord) : isWord (place w) := by
  cases w with
  | none => rfl
  | some w => exact w.isWord_shown

theorem encodeWord_place (w : Option MarkedWord) :
    encodeWord (place w) = w.map fun w => toRegex w.shown := by
  cases w with
  | none => rfl
  | some w => exact w.encodeWord_shown

theorem toList_cellsOf (ws : List (Option MarkedWord)) :
    (cellsOf ws).map (Option.map String.toList) = ws.map (Option.map MarkedWord.regex) := by
  rw [cellsOf, List.map_map]
  refine List.map_congr_left fun w _ => ?_
  cases w with
  | none => rfl
  | some w => exact congrArg some String.toList_ofList

def bare (w : Option MarkedWord) : List Char := (w.map MarkedWord.word).getD ['*']

theorem isWord_bare (w : Option MarkedWord) : isWord (bare w) := by
  cases w with
  | none => rfl
  | some w => exact w.isWord

theorem encodeWord_bare (w : Option MarkedWord) :
    encodeWord (bare w) = w.map fun w => toRegex w.word := by
  cases w with
  | none => rfl
  | some w =>
    rw [bare, Option.map_some, Option.getD_some, encodeWord, w.closed]
    rfl

theorem encode_decode_sensitive (splits : kind.splitsWords) (id : String)
    (given : ∃ w, some w ∈ ws) (all : ∀ w, some w ∈ ws → w.sensitive) :
    ∃ v, decode id (cellsOf ws) kind = .ok v ∧ v.encode = cellsOf ws := by
  have cells : cellsOf ws = ((ws.map bare).map encodeWord).map (marked true) := by
    rw [cellsOf, List.map_map, List.map_map]
    refine List.map_congr_left fun w member => ?_
    rw [Function.comp_apply, Function.comp_apply, encodeWord_bare]
    cases w with
    | none => rfl
    | some w =>
      rw [marked, Option.map_some, Option.map_some, Option.map_some, MarkedWord.regex,
        all w member]
  have constrained : ∃ r, some r ∈ (ws.map bare).map encodeWord := by
    obtain ⟨w, member⟩ := given
    refine ⟨toRegex w.word, List.mem_map.mpr ⟨bare (some w), ?_, encodeWord_bare (some w)⟩⟩
    exact List.mem_map_of_mem member
  have words : ∀ word ∈ ws.map bare, isWord word := by
    intro word member
    obtain ⟨w, -, rfl⟩ := List.mem_map.mp member
    exact isWord_bare w
  have decoded := decode_marked id true constrained (fun r member => (mem_encodeWord member).1)
    (.inl splits)
  rw [← cells] at decoded
  refine ⟨_, decoded, ?_⟩
  rw [encode_eq, String.toList_ofList, decodeText_encodeWord splits,
    encodeText_spaced splits words, cells]

theorem decode_insensitive (splits : kind.splitsWords) (id : String)
    (bare : ∃ w, some w ∈ ws ∧ w.sensitive = false) :
    decode id (cellsOf ws) kind = .ok ⟨id, String.ofList (spaced (ws.map place)), false, kind⟩ := by
  obtain ⟨w, member, unmarked⟩ := bare
  have mixed : ((ws.map (Option.map MarkedWord.regex)).filterMap fun r => r).all
      CaseMark.isMarked = false := by
    rw [List.all_eq_false]
    refine ⟨w.regex, List.mem_filterMap.mpr ⟨some w.regex, ?_, rfl⟩, ?_⟩
    · exact List.mem_map.mpr ⟨some w, member, rfl⟩
    · rw [MarkedWord.isMarked_regex, unmarked]
      exact Bool.false_ne_true
  have text : decodeText kind (ws.map (Option.map MarkedWord.regex)) = spaced (ws.map place) := by
    rw [decodeText_of_splitsWords splits, List.map_map]
    refine congrArg spaced (List.map_congr_left fun w _ => ?_)
    cases w with
    | none => rfl
    | some w => exact w.ofRegex_regex
  rw [decode]
  simp only [toList_cellsOf, mixed, splits, text, Bool.and_false, Bool.not_true, Bool.false_and,
    Bool.false_eq_true, if_false]

theorem encode_places (splits : kind.splitsWords) (id : String) (ws : List (Option MarkedWord)) :
    encode ⟨id, String.ofList (spaced (ws.map place)), false, kind⟩ =
      ws.map (Option.map fun w => String.ofList (toRegex w.shown)) := by
  have words : ∀ word ∈ ws.map place, isWord word := by
    intro word member
    obtain ⟨w, -, rfl⟩ := List.mem_map.mp member
    exact isWord_place w
  rw [encode_eq, String.toList_ofList, encodeText_of_splitsWords splits, Text.words_spaced words,
    List.map_map, List.map_map]
  refine List.map_congr_left fun w _ => ?_
  rw [Function.comp_apply, Function.comp_apply, encodeWord_place]
  cases w <;> rfl

/-- Words come back with their marks just if the marks are all alike. -/
theorem marks_restored_iff (splits : kind.splitsWords) (id : String) (given : ∃ w, some w ∈ ws) :
    ∃ v, decode id (cellsOf ws) kind = .ok v ∧
      (v.encode = cellsOf ws ↔
        ∀ w w', some w ∈ ws → some w' ∈ ws → w.sensitive = w'.sensitive) := by
  by_cases all : ∀ w, some w ∈ ws → w.sensitive
  · obtain ⟨v, decoded, restored⟩ := encode_decode_sensitive splits id given all
    refine ⟨v, decoded, iff_of_true restored fun w w' member member' => ?_⟩
    rw [all w member, all w' member']
  · obtain ⟨w, member, unmarked⟩ : ∃ w, some w ∈ ws ∧ w.sensitive = false := by
      simpa using all
    refine ⟨_, decode_insensitive splits id ⟨w, member, unmarked⟩, ?_⟩
    rw [encode_places splits id ws, cellsOf, List.map_inj_left]
    constructor
    · intro same
      have none (w : MarkedWord) (member : some w ∈ ws) : w.sensitive = false := by
        have texts := Option.some.inj (same (some w) member)
        exact MarkedWord.toRegex_shown_eq_iff.mp (String.ofList_injective texts)
      intro w w' member member'
      rw [none w member, none w' member']
    · intro alike w' member'
      cases w' with
      | none => rfl
      | some w' =>
        have plain := (alike w' w member' member).trans unmarked
        rw [Option.map_some, Option.map_some, MarkedWord.toRegex_shown_eq_iff.mpr plain]

def allMarked : List (Option MarkedWord) :=
  [some ⟨true, "Anna".toList, by decide, by decide⟩, none,
    some ⟨true, "St*".toList, by decide, by decide⟩]

theorem marks_restored_allMarked : AnnotationKind.text.splitsWords ∧
    (∃ w, some w ∈ allMarked) ∧
    ∃ v, decode "word" (cellsOf allMarked) .text = .ok v ∧ v.encode = cellsOf allMarked := by
  have splits : AnnotationKind.text.splitsWords := rfl
  have given : ∃ w, some w ∈ allMarked := ⟨_, List.mem_cons_self⟩
  obtain ⟨v, decoded, restored⟩ := marks_restored_iff splits "word" given
  refine ⟨splits, given, v, decoded, restored.mpr fun w w' member member' => ?_⟩
  simp only [allMarked, List.mem_cons, Option.some.injEq, List.not_mem_nil, or_false,
    reduceCtorEq, false_or] at member member'
  rcases member with rfl | rfl <;> rcases member' with rfl | rfl <;> rfl

def oneMarked : List (Option MarkedWord) :=
  [some ⟨true, "Cat".toList, by decide, by decide⟩,
    some ⟨false, "dog".toList, by decide, by decide⟩]

/-- The mark comes back as characters to be found. -/
theorem marks_escaped_oneMarked :
    cellsOf oneMarked = [some "(?-i)Cat", some "dog"] ∧
    ∃ v, decode "word" (cellsOf oneMarked) .text = .ok v ∧
      v.encode = [some "\\(.\\-i\\)Cat", some "dog"] ∧ v.encode ≠ cellsOf oneMarked :=
  ⟨by decide, ⟨"word", "(?-i)Cat dog", false, .text⟩, by decide, by decide, by decide⟩

end AnnotationValue

end Concordance
