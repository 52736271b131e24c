import Concordance.Proofs.Annotation.Column
import Concordance.Proofs.Pattern.Decoded

/-! Patterns that constrain no declared annotation: one annotation that splits words stands for all
of their tokens. -/

namespace Concordance

open Text (isWord spaced words)

namespace AnnotationValue

def stars (corpus : Corpus) (name : String) (n : Nat) : AnnotationValue :=
  ⟨name, String.ofList (spaced (List.replicate n ['*'])), false, corpus.kindOf name⟩

variable {corpus : Corpus} {name : String} {n : Nat}

theorem isWord_of_mem_stars : ∀ w ∈ List.replicate n ['*'], isWord w := by
  intro w member
  rw [List.eq_of_mem_replicate member]
  decide

theorem words_stars (corpus : Corpus) (name : String) (n : Nat) :
    words (stars corpus name n).value.toList = List.replicate n ['*'] := by
  rw [stars, String.toList_ofList]
  exact Text.words_spaced isWord_of_mem_stars

theorem encode_stars (splits : (corpus.kindOf name).splitsWords) :
    (stars corpus name n).encode = List.replicate n none := by
  have kind : (stars corpus name n).kind.splitsWords := splits
  rw [encode_eq, encodeText_of_splitsWords kind, words_stars, List.map_replicate,
    List.map_replicate]
  rfl

theorem decode_open (splits : (corpus.kindOf name).splitsWords) :
    decode name (List.replicate n none) (corpus.kindOf name) = .ok (stars corpus name n) := by
  have bare : (List.replicate n none).map (Option.map String.toList) = List.replicate n none := by
    rw [List.map_replicate]
    rfl
  have given : (List.replicate n (none : Option (List Char))).filterMap (fun r => r) = [] :=
    List.filterMap_replicate_of_none rfl
  rw [decode]
  simp only [bare, given, splits, Bool.not_true, Bool.false_and, Bool.false_eq_true, if_false,
    List.isEmpty_nil, decodeText_of_splitsWords splits]
  rw [List.map_replicate]
  rfl

end AnnotationValue

namespace Pattern

variable {corpus : Corpus} {i n : Nat} {cols : Columns} {name : String}

theorem gatherAll_undeclared {attributes : List Attribute}
    (undeclared : ∀ a ∈ attributes, corpus.declares a.name = false) :
    gatherAll corpus i attributes cols = .ok cols := by
  induction attributes with
  | nil => rfl
  | cons a rest ih =>
    have dropped : gather corpus i (.attribute a) cols = .ok cols := by
      rw [gather, undeclared a List.mem_cons_self]
      rfl
    rw [gatherAll_cons, dropped]
    exact ih fun b member => undeclared b (List.mem_cons_of_mem a member)

theorem gatherTokens_undeclared {tokens : List Token} (conjunctions : ∀ t ∈ tokens, t.isConjunction)
    (undeclared : ∀ t ∈ tokens, ∀ a ∈ t.attributes, corpus.declares a.name = false) :
    gatherTokens corpus i tokens cols = .ok cols := by
  induction tokens generalizing i with
  | nil => rfl
  | cons t tokens ih =>
    rw [gatherTokens_cons (conjunctions t List.mem_cons_self),
      gatherAll_undeclared (undeclared t List.mem_cons_self)]
    exact ih (fun u member => conjunctions u (List.mem_cons_of_mem t member))
      fun u member => undeclared u (List.mem_cons_of_mem t member)

theorem fill_carrier {primary : Option String} (chosen : carrier corpus primary = .ok name)
    (splits : (corpus.kindOf name).splitsWords) (positive : 0 < n) :
    fill corpus primary n ∅ = .ok (Keyed.ofList [(name, List.replicate n none)]) := by
  have started : (∅ : Columns).insert name [] = Keyed.ofList [(name, [])] := rfl
  have only {key : String} {cells : List (Option String)}
      (found : (Keyed.ofList [(name, ([] : List (Option String)))]).get? key = some cells) :
      key = name ∧ cells = [] := by
    rw [Keyed.get?_eq_some_iff] at found
    exact Prod.mk.inj (List.mem_singleton.mp found)
  have short : ∀ key cells, (Keyed.ofList [(name, ([] : List (Option String)))]).get? key =
      some cells → cells.length < n := by
    intro key cells found
    rw [(only found).2]
    exact positive
  have here : (Keyed.ofList [(name, ([] : List (Option String)))]).get? name = some [] :=
    Keyed.get?_eq_some_iff.mpr (List.mem_singleton_self _)
  obtain ⟨key, before, found, -, run⟩ := fill_short primary short here splits
  obtain ⟨rfl, rfl⟩ := only found
  rw [fill_empty primary rfl positive, chosen]
  refine run.trans (congrArg Except.ok (Keyed.ext_entries ?_))
  simp [Keyed.insert, Keyed.put, Keyed.ofList, Keyed.empty]

theorem eq_of_fill_empty {primary : Option String} {filled : Columns} (empty : cols.isEmpty)
    (positive : 0 < n) (run : fill corpus primary n cols = .ok filled) :
    ∃ name, carrier corpus primary = .ok name ∧ (corpus.kindOf name).splitsWords ∧
      filled = Keyed.ofList [(name, List.replicate n none)] := by
  have nothing : cols = ∅ := Keyed.ext_entries (List.isEmpty_iff.mp empty)
  subst nothing
  have started := run
  rw [fill_empty primary empty positive] at started
  cases chosen : carrier corpus primary with
  | error e =>
    rw [chosen] at started
    cases started
  | ok name =>
    rw [chosen] at started
    have started : fill corpus primary n ((∅ : Columns).insert name []) = .ok filled := started
    have here := Keyed.get?_insert_self (∅ : Columns) name []
    have only {key : String} {cells : List (Option String)}
        (found : ((∅ : Columns).insert name []).get? key = some cells) : key = name ∧ cells = [] :=
      (Keyed.of_get?_insert found).resolve_right nofun
    have splits : (corpus.kindOf name).splitsWords := by
      rcases fill_ok primary (isEmpty_of_get? here) started with ⟨-, key, cells, found, reaches⟩ |
        ⟨key, before, found, splits, -⟩
      · rw [(only found).2] at reaches
        exact absurd reaches (Nat.not_le.mpr positive)
      · exact (only found).1 ▸ splits
    rw [fill_carrier chosen splits positive, Except.ok.injEq] at run
    exact ⟨name, rfl, splits, run.symm⟩

theorem values_undeclared {p : Pattern} {primary : Option String}
    (conjunctions : ∀ t ∈ p.tokens, t.isConjunction)
    (undeclared : ∀ t ∈ p.tokens, ∀ a ∈ t.attributes, corpus.declares a.name = false)
    (some_token : p.tokens ≠ []) (chosen : carrier corpus primary = .ok name)
    (splits : (corpus.kindOf name).splitsWords) : p.values corpus primary =
      .ok (Keyed.ofList [(name, .stars corpus name p.tokens.length)]) := by
  have filled := fill_carrier chosen splits (List.length_pos_iff.mpr some_token)
  have decoded : decodeColumns corpus [(name, List.replicate p.tokens.length none)] =
      .ok [(name, .stars corpus name p.tokens.length)] := by
    rw [decodeColumns, AnnotationValue.decode_open splits]
    rfl
  simp only [values, gatherTokens_undeclared conjunctions undeclared, filled, bind, Except.bind]
  rw [show (Keyed.ofList [(name, List.replicate p.tokens.length (none : Option String))]).entries =
    [(name, List.replicate p.tokens.length none)] from rfl, decoded]

end Pattern

end Concordance
