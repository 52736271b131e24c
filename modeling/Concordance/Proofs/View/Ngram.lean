import Concordance.Link.Decode
import Concordance.Proofs.View.Stable

/-! The n-gram view shows the pattern of its slots as slots with the same pattern. -/

namespace Concordance

open Text (isName isNameChar trim)
open Quoted (isRegular)
open Wildcard (isOpen)

namespace AnnotationValue

variable {v : AnnotationValue}

def encodeTrimmed (kind : AnnotationKind) (word : List Char) : List Char :=
  match kind with
  | .text | .combobox => Wildcard.toRegex word
  | .select => Regex.escape word
  | .pos => word

theorem encodeSlot_eq_some {regex : String} (h : v.encodeSlot = some regex) :
    trim v.value.toList ≠ [] ∧ isOpen (trim v.value.toList) = false ∧ regex =
      String.ofList
        (CaseMark.mark v.caseSensitive (encodeTrimmed v.kind (trim v.value.toList))) := by
  cases text : trim v.value.toList with
  | nil =>
    simp only [encodeSlot, text] at h
    cases h
  | cons c cs =>
    simp only [encodeSlot, text] at h
    split at h
    · cases h
    · next closed =>
      rw [Option.some.injEq] at h
      exact ⟨List.cons_ne_nil c cs, by simpa using closed, h.symm⟩

theorem encodeSlot_of_trim {w : AnnotationValue} (kind : w.kind = v.kind)
    (sensitive : w.caseSensitive = v.caseSensitive)
    (same : trim w.value.toList = trim v.value.toList) : w.encodeSlot = v.encodeSlot := by
  rw [encodeSlot, encodeSlot, kind, sensitive, same]

theorem decodeText_encodeTrimmed (kind : AnnotationKind) (word : List Char) :
    decodeText kind [some (encodeTrimmed kind word)] = word := by
  cases kind with
  | text | combobox => exact Wildcard.ofRegex_toRegex word
  | select => exact Regex.unescape_escape word
  | pos => rfl

theorem encodeTrimmed_regular (typed : v.kind = .pos → v.isRecoverable) :
    CaseMark.isMarked (encodeTrimmed v.kind (trim v.value.toList)) = false ∧
      isRegular (encodeTrimmed v.kind (trim v.value.toList)) := by
  cases kind : v.kind with
  | text | combobox => exact ⟨Wildcard.isMarked_toRegex _, Wildcard.isRegular_toRegex _⟩
  | select => exact ⟨Regex.isMarked_escape _, Regex.isRegular_escape _⟩
  | pos =>
    have given := typed kind
    rw [isRecoverable, kind] at given
    simpa [encodeTrimmed] using given

theorem decode_encodeSlot {regex : String} (h : v.encodeSlot = some regex)
    (typed : v.kind = .pos → v.isRecoverable) :
    decode v.id [some regex] v.kind =
      .ok ⟨v.id, String.ofList (trim v.value.toList), v.caseSensitive, v.kind⟩ := by
  obtain ⟨-, -, rfl⟩ := encodeSlot_eq_some h
  have unmarked := (encodeTrimmed_regular typed).1
  have single := @decode_marked v.kind v.id v.caseSensitive
    [some (encodeTrimmed v.kind (trim v.value.toList))] ⟨_, List.mem_singleton_self _⟩
    (fun r member => by rwa [Option.some.inj (List.mem_singleton.mp member)]) (.inr (by simp))
  rw [decodeText_encodeTrimmed] at single
  exact single

end AnnotationValue

def Slot.typed (corpus : Corpus) (slot : Slot) : AnnotationValue :=
  ⟨slot.id, slot.value, slot.caseSensitive, corpus.kindOf slot.id⟩

def Slot.trimmed (slot : Slot) : Slot :=
  { slot with value := String.ofList (trim slot.value.toList) }

/-- A slot as it is shown again: an empty one of the group if it constrains nothing. -/
def Slot.restored (corpus : Corpus) (group : String) (slot : Slot) : Slot :=
  if (slot.typed corpus).encodeSlot.isSome then slot.trimmed else ⟨group, "", false⟩

/-- A slot that comes back from the token it is written as. -/
structure Slot.IsKept (corpus : Corpus) (slot : Slot) : Prop where
  named : (slot.typed corpus).encodeSlot.isSome → isName isNameChar slot.id.toList
  typed : corpus.kindOf slot.id = .pos → (slot.typed corpus).isRecoverable

namespace Slot.IsKept

variable {s : Settings} {slot : Slot}

theorem blank (corpus : Corpus) (id : String) : IsKept corpus ⟨id, "", false⟩ where
  named := nofun
  typed pos := by
    rw [AnnotationValue.isRecoverable, Slot.typed, pos]
    rfl

theorem slotToken_eq (corpus : Corpus) (slot : Slot) : View.slotToken corpus slot =
    .ofCondition
      ((slot.typed corpus).encodeSlot.map fun regex => .attribute ⟨slot.id, "=", regex⟩) :=
  rfl

theorem encodeSlot_trimmed (corpus : Corpus) (slot : Slot) :
    (slot.trimmed.typed corpus).encodeSlot = (slot.typed corpus).encodeSlot := by
  have text : (slot.trimmed.typed corpus).value.toList = trim (slot.typed corpus).value.toList :=
    String.toList_ofList
  refine AnnotationValue.encodeSlot_of_trim ?_ ?_ ?_
  · rfl
  · rfl
  · rw [text, Text.trim_trim]

theorem slotToken_trimmed (corpus : Corpus) (slot : Slot) :
    View.slotToken corpus slot.trimmed = View.slotToken corpus slot := by
  rw [slotToken_eq, slotToken_eq, encodeSlot_trimmed]
  rfl

theorem slotToken_restored (corpus : Corpus) (group : String) (slot : Slot) :
    View.slotToken corpus (slot.restored corpus group) = View.slotToken corpus slot := by
  rw [Slot.restored]
  split
  · exact slotToken_trimmed corpus slot
  · next free =>
    rw [Bool.not_eq_true, Option.isSome_eq_false_iff, Option.isNone_iff_eq_none] at free
    rw [slotToken_eq corpus slot, free]
    rfl

variable (kept : slot.IsKept s.corpus)

include kept

theorem isWritable : (View.slotToken s.corpus slot).isWritable := by
  rw [slotToken_eq]
  cases encoded : (slot.typed s.corpus).encodeSlot with
  | none => rfl
  | some regex =>
    have name := kept.named (by rw [encoded]; rfl)
    obtain ⟨-, -, rfl⟩ := AnnotationValue.encodeSlot_eq_some encoded
    have regular := (AnnotationValue.encodeTrimmed_regular (v := slot.typed s.corpus) kept.typed).2
    simp [Token.isWritable, Token.ofCondition, Condition.isWritable, Attribute.isWritable, name,
      CaseMark.isRegular_mark]
    exact regular

theorem slot?_slotToken (group : String) : Query.slot? s group (View.slotToken s.corpus slot) =
    some (slot.restored s.corpus group) := by
  cases encoded : (slot.typed s.corpus).encodeSlot with
  | none =>
    rw [slotToken_eq, Slot.restored, encoded]
    rfl
  | some regex =>
    have decodes : AnnotationValue.decode slot.id [some regex] (s.corpus.kindOf slot.id) =
        .ok (slot.trimmed.typed s.corpus) := AnnotationValue.decode_encodeSlot encoded kept.typed
    rw [slotToken_eq, Slot.restored, encoded, Query.slot?]
    simp only [Token.isPlain, Token.ofCondition, Option.map_some, decodes]
    rfl

end Slot.IsKept

namespace Pattern

variable {s : Settings} {slots : List Slot}

def ofSlots (corpus : Corpus) (slots : List Slot) : Pattern :=
  ⟨slots.map (View.slotToken corpus), none⟩

theorem isLeftNested_ofSlots (corpus : Corpus) (slots : List Slot) :
    (ofSlots corpus slots).isLeftNested := by
  apply List.all_eq_true.mpr
  intro t member
  obtain ⟨slot, -, rfl⟩ := List.mem_map.mp member
  rw [Slot.IsKept.slotToken_eq]
  cases (slot.typed corpus).encodeSlot <;> rfl

theorem parse?_ofSlots (kept : ∀ slot ∈ slots, slot.IsKept s.corpus) (filled : slots ≠ []) :
    parse? (some ((ofSlots s.corpus slots).text none)) s.primary =
      some (ofSlots s.corpus slots) := by
  have tokens : (ofSlots s.corpus slots).tokens.isEmpty = false := by
    rw [List.isEmpty_eq_false_iff]
    simpa [ofSlots] using filled
  have writable : (ofSlots s.corpus slots).isWritable := by
    rw [isWritable, tokens, Bool.not_false, Bool.true_and, Bool.and_eq_true, List.all_eq_true]
    refine ⟨fun t member => ?_, rfl⟩
    obtain ⟨slot, given, rfl⟩ := List.mem_map.mp member
    exact (kept slot given).isWritable
  have read : parse ((ofSlots s.corpus slots).text none) s.primary =
      .ok (ofSlots s.corpus slots).leftNested :=
      parse_text_eq writable fun _ given => absurd given (Option.not_mem_none _)
  rw [leftNested_of_isLeftNested (isLeftNested_ofSlots s.corpus slots)] at read
  simp only [parse?, read, tokens]
  rfl

theorem mapM_slot? (kept : ∀ slot ∈ slots, slot.IsKept s.corpus) (group : String) :
    (ofSlots s.corpus slots).tokens.mapM (Query.slot? s group) =
      some (slots.map (·.restored s.corpus group)) := by
  rw [ofSlots]
  induction slots with
  | nil => rfl
  | cons slot slots ih =>
    have first := (kept slot List.mem_cons_self).slot?_slotToken group
    have others := ih fun t member => kept t (List.mem_cons_of_mem slot member)
    rw [List.map_cons, List.mapM_cons, first, others]
    rfl

theorem ofSlots_restored (corpus : Corpus) (group : String) (slots : List Slot) :
    ofSlots corpus (slots.map (·.restored corpus group)) = ofSlots corpus slots := by
  rw [ofSlots, ofSlots, List.map_map]
  exact congrArg (mk · none)
    (List.map_congr_left fun slot _ => Slot.IsKept.slotToken_restored corpus group slot)

end Pattern

namespace View

variable {s : Settings}

theorem ngramTokens_all (corpus : Corpus) (slots : List Slot) :
    ngramTokens corpus slots.length slots = (Pattern.ofSlots corpus slots).tokens := by
  have all : chosen slots.length slots = slots := by
    rw [chosen, if_pos (Int.natCast_nonneg _), Int.toNat_natCast, List.take_length]
  rw [ngramTokens, all, List.length_map, Int.sub_self]
  exact List.append_nil _

theorem compile_ngram (group : String) (maxSize : Int) (slots : List Slot) :
    ((ngram group slots.length maxSize slots).compile s).pattern =
      Text.nonEmpty? (some ((Pattern.ofSlots s.corpus slots).text none)) := by
  simp only [compile, ngramTokens_all]
  rfl

end View

theorem mapM_eq_some {α β : Type} {f : α → Option β} {xs : List α} {ys : List β}
    (mapped : xs.mapM f = some ys) :
    ys.length = xs.length ∧ ∀ y ∈ ys, ∃ x ∈ xs, f x = some y := by
  induction xs generalizing ys with
  | nil =>
    rw [List.mapM_nil] at mapped
    cases mapped
    exact ⟨rfl, nofun⟩
  | cons x xs ih =>
    rw [List.mapM_cons] at mapped
    obtain ⟨y, here, rest⟩ := Option.bind_eq_some_iff.mp mapped
    obtain ⟨others, there, same⟩ := Option.bind_eq_some_iff.mp rest
    cases same
    obtain ⟨length, each⟩ := ih there
    refine ⟨congrArg Nat.succ length, fun z member => ?_⟩
    rcases List.mem_cons.mp member with rfl | member
    · exact ⟨x, List.mem_cons_self, here⟩
    · obtain ⟨w, given, found⟩ := each z member
      exact ⟨w, List.mem_cons_of_mem x given, found⟩

namespace Query

variable {q : Query} {s : Settings} {slots : List Slot}

structure IsSlots (q : Query) (s : Settings) (group : String) (slots : List Slot) : Prop where
  contextKeys : q.groups.contextKeys = []
  grouped : groupedId q s = some group
  filled : slots ≠ []
  few : (slots.length : Int) ≤ s.ngramMaxSize

theorem exists_ngram? {view : View} (shown : q.ngram? s = some view) : ∃ p group slots,
    q.parsed s = some p ∧ p.tokens.mapM (slot? s group) = some slots ∧
      view = .ngram group slots.length s.ngramMaxSize slots ∧ q.IsSlots s group slots := by
  rw [ngram?] at shown
  split at shown
  · cases shown
  · next context =>
    split at shown
    · next group p grouped parsed =>
      split at shown
      · cases shown
      · next fits =>
        obtain ⟨slots, mapped, rfl⟩ := Option.map_eq_some_iff.mp shown
        have length := (mapM_eq_some mapped).1
        refine ⟨p, group, slots, parsed, mapped, rfl, by simpa using context, grouped, ?_, ?_⟩
        · have filled := (readable_of_parsed parsed).filled
          rwa [ne_eq, ← List.length_eq_zero_iff, length, List.length_eq_zero_iff]
        · have few : ¬s.ngramMaxSize < p.tokens.length := by
            simp only [Bool.or_eq_true, decide_eq_true_eq, not_or] at fits
            exact fits.2
          rw [length]
          exact Int.not_lt.mp few
    · cases shown

theorem parsed_ofSlots (kept : ∀ slot ∈ slots, slot.IsKept s.corpus) (filled : slots ≠ [])
    (pattern : q.pattern = Text.nonEmpty? (some ((Pattern.ofSlots s.corpus slots).text none))) :
    q.parsed s = some (Pattern.ofSlots s.corpus slots) := by
  have some_token : (Pattern.ofSlots s.corpus slots).tokens ≠ [] := by
    simpa [Pattern.ofSlots] using filled
  have some_text : some ((Pattern.ofSlots s.corpus slots).text none) ≠ some "" := fun same =>
    Pattern.text_ne_empty some_token none (Option.some.inj same)
  rw [parsed, pattern, Text.nonEmpty?_of_ne some_text]
  exact Pattern.parse?_ofSlots kept filled

theorem ngram?_ofSlots (kept : ∀ slot ∈ slots, slot.IsKept s.corpus) {group : String}
    (h : q.IsSlots s group slots) (parsed : q.parsed s = some (Pattern.ofSlots s.corpus slots)) :
    q.ngram? s = some (.ngram group slots.length s.ngramMaxSize
      (slots.map (·.restored s.corpus group))) := by
  have fits : (Pattern.ofSlots s.corpus slots).tokens.length = slots.length := List.length_map _
  have few : ¬s.ngramMaxSize < ((Pattern.ofSlots s.corpus slots).tokens.length : Int) := by
    rw [fits]
    exact Int.not_lt.mpr h.few
  rw [ngram?, h.contextKeys, h.grouped, parsed]
  simp only [Pattern.mapM_slot? kept group, few, Option.map_some, List.length_map]
  rfl

end Query

end Concordance
