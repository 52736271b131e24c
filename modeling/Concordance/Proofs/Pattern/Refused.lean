import Concordance.Proofs.Annotation.Edited
import Concordance.Proofs.Pattern.Restricted
import Concordance.Proofs.Pattern.Unconstrained

/-! Which patterns are not shown as values. A token may say no more than equalities of distinct
annotations, and each token that an annotation leaves open must be one that some value can skip. -/

namespace Concordance.Pattern

/-- What keeps a pattern from being shown as values. -/
inductive IsRefused (corpus : Corpus) (primary : Option String) (p : Pattern) : Prop
  | decorated {t : Token} (member : t ∈ p.tokens) (decorated : ¬t.isPlain)
  | inexpressible {t : Token} (member : t ∈ p.tokens) {c : Condition} (given : c ∈ t.condition)
    (foreign : c.IsForeign corpus)
  | twice {t : Token} (member : t ∈ p.tokens) {name : String} (declared : corpus.declares name)
    (twice : (t.attributes.map (·.name)).Duplicate name)
  | skipped {name : String} (single : (corpus.kindOf name).splitsWords = false) {i j : Nat}
    (asked : p.Asks corpus i name) (earlier : j < i) (skips : ¬p.Asks corpus j name)
  | trailing {i : Nat} {name : String} (asked : p.Asks corpus i name)
    (last : ∀ name, ¬p.Asks corpus (p.tokens.length - 1) name)
    (single : ∀ i name, p.Asks corpus i name → (corpus.kindOf name).splitsWords = false)
  | carrierless (some_token : p.tokens ≠ []) (unasked : ∀ i name, ¬p.Asks corpus i name)
    (candidate :
      (corpus.kindOf ((Text.nonEmpty? primary).getD corpus.primary)).splitsWords = false)
    (visible : ∀ a ∈ corpus.visible, a.kind.splitsWords = false)

variable {corpus : Corpus} {primary : Option String} {p : Pattern} {cols : Columns} {n : Nat}

theorem Asks.lt_length {i : Nat} {name : String} (asked : p.Asks corpus i name) :
    i < p.tokens.length := by
  obtain ⟨-, t, here, -⟩ := asked
  exact (List.getElem?_eq_some_iff.mp here).1

theorem orderly_of_not_isRefused (shown : ¬p.IsRefused corpus primary) :
    ∀ t ∈ p.tokens, t.IsOrderly corpus := by
  intro t member
  refine ⟨?_, ?_, ?_⟩
  · by_contra decorated
    exact shown (.decorated member decorated)
  · intro c given foreign
    exact shown (.inexpressible member given foreign)
  · by_contra repeated
    obtain ⟨name, declared, twice⟩ := Token.not_nodup_declared.mp repeated
    exact shown (.twice member declared twice)

theorem exists_fill_iff (given : cols.isEmpty = false) :
    (∃ filled, fill corpus primary n cols = .ok filled) ↔
      ∃ name cells, cols.get? name = some cells ∧
        (n ≤ cells.length ∨ (corpus.kindOf name).splitsWords) := by
  constructor
  · intro ⟨filled, run⟩
    rcases fill_ok primary given run with ⟨-, name, cells, found, reaches⟩ |
      ⟨name, cells, found, splits, -⟩
    · exact ⟨name, cells, found, .inl reaches⟩
    · exact ⟨name, cells, found, .inr splits⟩
  · intro ⟨name, cells, found, able⟩
    by_cases reached : ∃ name cells, cols.get? name = some cells ∧ n ≤ cells.length
    · obtain ⟨name, cells, found, reaches⟩ := reached
      exact ⟨cols, fill_reaching primary found reaches⟩
    · have short : ∀ name cells, cols.get? name = some cells → cells.length < n :=
        fun name cells found =>
          Nat.lt_of_not_le fun reaches => reached ⟨name, cells, found, reaches⟩
      have splits := able.resolve_left fun reaches => reached ⟨name, cells, found, reaches⟩
      obtain ⟨carrier, before, -, -, run⟩ := fill_short primary short found splits
      exact ⟨_, run⟩

section

variable (named : corpus.annotations.NamedBy Annotation.id)
include named

theorem kindOf_of_mem_visible {a : Annotation} (member : a ∈ corpus.visible) :
    corpus.kindOf a.id = a.kind := by
  obtain ⟨key, found⟩ := Keyed.mem_values_iff.mp (List.mem_filter.mp member).1
  obtain rfl := named key a found
  rw [Corpus.kindOf, found]
  rfl

theorem exists_carrier_iff :
    (∃ name, carrier corpus primary = .ok name ∧ (corpus.kindOf name).splitsWords) ↔
      (corpus.kindOf ((Text.nonEmpty? primary).getD corpus.primary)).splitsWords ∨
        ∃ a ∈ corpus.visible, a.kind.splitsWords := by
  rw [carrier]
  cases candidate : (corpus.kindOf ((Text.nonEmpty? primary).getD corpus.primary)).splitsWords with
  | true => simp [candidate]
  | false =>
    simp only [Bool.false_eq_true, if_false, false_or]
    cases found : corpus.visible.find? (·.kind.splitsWords) with
    | none =>
      constructor
      · rintro ⟨name, chosen, -⟩
        cases chosen
      · intro ⟨a, member, splits⟩
        exact absurd splits (List.find?_eq_none.mp found a member)
    | some a =>
      have member := List.mem_of_find?_eq_some found
      have splits : a.kind.splitsWords := by simpa using List.find?_some found
      have kept : (corpus.kindOf a.id).splitsWords := by
        rwa [kindOf_of_mem_visible named member]
      exact ⟨fun _ => ⟨a, member, splits⟩, fun _ => ⟨a.id, rfl, kept⟩⟩

theorem exists_fill_empty_iff (positive : 0 < n) :
    (∃ filled, fill corpus primary n ∅ = .ok filled) ↔
      (corpus.kindOf ((Text.nonEmpty? primary).getD corpus.primary)).splitsWords ∨
        ∃ a ∈ corpus.visible, a.kind.splitsWords := by
  rw [← exists_carrier_iff named]
  constructor
  · intro ⟨filled, run⟩
    obtain ⟨name, chosen, splits, -⟩ := eq_of_fill_empty rfl positive run
    exact ⟨name, chosen, splits⟩
  · intro ⟨name, chosen, splits⟩
    exact ⟨_, fill_carrier chosen splits positive⟩

end

theorem length_column_restricted (corpus : Corpus) (p : Pattern) (name : String) :
    ((p.restricted corpus).column name).length ≤ p.tokens.length := by
  rw [length_column, restricted, List.length_map]

section

variable (orderly : ∀ t ∈ p.tokens, t.IsOrderly corpus)
include orderly

theorem settled_restricted_iff (name : String) :
    settled ((p.restricted corpus).column name) ≠ [] ↔ ∃ i, p.Asks corpus i name := by
  rw [settled_ne_nil_iff_cell]
  exact exists_congr fun i => cell_restricted_iff orderly i name

theorem Covered.decodes_iff
    (covered : Covered corpus (p.restricted corpus).column p.tokens.length cols) :
    (∀ name cells, cols.get? name = some cells →
      ∃ v, AnnotationValue.decode name cells (corpus.kindOf name) = .ok v) ↔
    ∀ name i j, (corpus.kindOf name).splitsWords = false → p.Asks corpus i name → j < i →
      p.Asks corpus j name := by
  constructor
  · intro decodes name i j single asked earlier
    by_contra skips
    have constrained := (settled_restricted_iff orderly name).mpr ⟨i, asked⟩
    obtain ⟨cells, found⟩ := covered.present name constrained
    have full := AnnotationValue.decode_iff.mp (decodes name cells found)
    have whole := covered.skips name cells found
    rw [single] at full whole
    have whole := whole.resolve_left Bool.false_ne_true
    apply full.resolve_left Bool.false_ne_true
    rw [whole, none_mem_settled_iff]
    exact ⟨i, j, (cell_restricted_iff orderly i name).mpr asked, earlier,
      fun here => skips ((cell_restricted_iff orderly j name).mp here)⟩
  · intro full name cells found
    rw [AnnotationValue.decode_iff]
    cases single : (corpus.kindOf name).splitsWords with
    | true => exact .inl rfl
    | false =>
      have whole := covered.skips name cells found
      rw [single] at whole
      rw [whole.resolve_left Bool.false_ne_true, none_mem_settled_iff]
      refine .inr ?_
      rintro ⟨i, j, here, earlier, skips⟩
      have asked := (cell_restricted_iff orderly i name).mp here
      exact skips ((cell_restricted_iff orderly j name).mpr (full name i j single asked earlier))

variable (gathered : Gathered (p.restricted corpus).column p.tokens.length cols)
include gathered

theorem exists_cells_iff (name : String) :
    (∃ cells, cols.get? name = some cells) ↔ ∃ i, p.Asks corpus i name := by
  rw [gathered.get?_whole (length_column_restricted corpus p), ← settled_restricted_iff orderly]
  by_cases constrained : settled ((p.restricted corpus).column name) = [] <;> simp [constrained]

theorem reaches_iff {name : String} {cells : List (Option String)}
    (found : cols.get? name = some cells) (some_token : p.tokens ≠ []) :
    p.tokens.length ≤ cells.length ↔ p.Asks corpus (p.tokens.length - 1) name := by
  have positive := List.length_pos_iff.mpr some_token
  obtain ⟨constrained, whole⟩ := gathered.eq_settled (length_column_restricted corpus p) found
  rw [whole, ← cell_restricted_iff orderly]
  constructor
  · intro reaches
    have within := length_settled_le ((p.restricted corpus).column name)
    have all := reaches.antisymm (within.trans (length_column_restricted corpus p name))
    rw [all]
    exact isSome_last constrained
  · intro last
    have bound := lt_length_settled last
    omega

theorem exists_fill_asked_iff {i : Nat} {name : String} (asked : p.Asks corpus i name) :
    (∃ filled, fill corpus primary p.tokens.length cols = .ok filled) ↔
      (∃ name, p.Asks corpus (p.tokens.length - 1) name) ∨
        ∃ i name, p.Asks corpus i name ∧ (corpus.kindOf name).splitsWords := by
  have some_token : p.tokens ≠ [] := List.ne_nil_of_length_pos (Nat.zero_lt_of_lt asked.lt_length)
  have cells_iff := exists_cells_iff orderly gathered
  obtain ⟨cells, found⟩ := (cells_iff name).mpr ⟨i, asked⟩
  rw [exists_fill_iff (isEmpty_of_get? found)]
  constructor
  · rintro ⟨name, cells, found, reaches | splits⟩
    · exact .inl ⟨name, (reaches_iff orderly gathered found some_token).mp reaches⟩
    · obtain ⟨i, asked⟩ := (cells_iff name).mp ⟨cells, found⟩
      exact .inr ⟨i, name, asked, splits⟩
  · rintro (⟨name, last⟩ | ⟨i, name, asked, splits⟩)
    · obtain ⟨cells, found⟩ := (cells_iff name).mpr ⟨_, last⟩
      exact ⟨name, cells, found, .inl ((reaches_iff orderly gathered found some_token).mpr last)⟩
    · obtain ⟨cells, found⟩ := (cells_iff name).mpr ⟨i, asked⟩
      exact ⟨name, cells, found, .inr splits⟩

theorem eq_empty_of_unasked (unasked : ∀ i name, ¬p.Asks corpus i name) : cols = ∅ := by
  apply Keyed.ext_entries
  rw [show (∅ : Columns).entries = [] from rfl, List.eq_nil_iff_forall_not_mem]
  intro ⟨name, cells⟩ member
  obtain ⟨i, asked⟩ :=
    (exists_cells_iff orderly gathered name).mp ⟨cells, Keyed.get?_eq_some_iff.mpr member⟩
  exact unasked i name asked

end

theorem not_isRefused_of_values (named : corpus.annotations.NamedBy Annotation.id)
    {decoded : Keyed AnnotationValue} (run : p.values corpus primary = .ok decoded) :
    ¬p.IsRefused corpus primary := by
  obtain ⟨cols, gathers, -⟩ := bind_eq_ok.mp run
  have orderly := orderly_of_gatherTokens gathers
  obtain ⟨cols', gathers', gathered⟩ := exists_gathered orderly
  obtain rfl := Except.ok.inj (gathers.symm.trans gathers')
  obtain ⟨filled, fills, decodes, -⟩ := values_ok primary run gathers
  intro refused
  cases refused with
  | decorated member decorated => exact decorated (orderly _ member).plain
  | inexpressible member given foreign => exact (orderly _ member).expressible _ given foreign
  | twice member declared twice =>
    exact Token.not_nodup_declared.mpr ⟨_, declared, twice⟩ (orderly _ member).distinct
  | @skipped name single i j asked earlier skips =>
    have covered := (gathered.settles (length_column_restricted corpus p)).covered primary
      (Nat.zero_lt_of_lt asked.lt_length) fills
    exact skips ((covered.decodes_iff orderly).mp decodes name i j single asked earlier)
  | trailing asked last single =>
    rcases (exists_fill_asked_iff orderly gathered asked).mp ⟨filled, fills⟩ with
      ⟨name, reached⟩ | ⟨i, name, asked, splits⟩
    · exact last name reached
    · exact Bool.false_ne_true ((single i name asked).symm.trans splits)
  | carrierless some_token unasked candidate visible =>
    rw [eq_empty_of_unasked orderly gathered unasked] at fills
    have positive : 0 < p.tokens.length := List.length_pos_iff.mpr some_token
    rcases (exists_fill_empty_iff named positive).mp ⟨filled, fills⟩ with
      splits | ⟨a, member, splits⟩
    · exact Bool.false_ne_true (candidate.symm.trans splits)
    · exact Bool.false_ne_true ((visible a member).symm.trans splits)

theorem exists_values_of_not_isRefused (named : corpus.annotations.NamedBy Annotation.id)
    (shown : ¬p.IsRefused corpus primary) : ∃ decoded, p.values corpus primary = .ok decoded := by
  have orderly := orderly_of_not_isRefused shown
  obtain ⟨cols, gathers, gathered⟩ := exists_gathered orderly
  by_cases some_token : p.tokens = []
  · exact ⟨∅, by rw [values, some_token]; rfl⟩
  have fills : ∃ filled, fill corpus primary p.tokens.length cols = .ok filled := by
    by_cases asked : ∃ i name, p.Asks corpus i name
    · obtain ⟨i, name, asked⟩ := asked
      rw [exists_fill_asked_iff orderly gathered asked]
      by_contra unable
      rw [not_or] at unable
      refine shown (.trailing asked (not_exists.mp unable.1) fun i name asked => ?_)
      exact Bool.eq_false_iff.mpr fun splits => unable.2 ⟨i, name, asked, splits⟩
    · have unasked : ∀ i name, ¬p.Asks corpus i name :=
        fun i name given => asked ⟨i, name, given⟩
      rw [eq_empty_of_unasked orderly gathered unasked,
        exists_fill_empty_iff named (List.length_pos_iff.mpr some_token)]
      by_contra unable
      rw [not_or] at unable
      have candidate := Bool.eq_false_iff.mpr unable.1
      refine shown (.carrierless some_token unasked candidate fun a member => ?_)
      exact Bool.eq_false_iff.mpr fun splits => unable.2 ⟨a, member, splits⟩
  obtain ⟨filled, fills⟩ := fills
  have covered := (gathered.settles (length_column_restricted corpus p)).covered primary
    (List.length_pos_iff.mpr some_token) fills
  have full : ∀ name i j, (corpus.kindOf name).splitsWords = false → p.Asks corpus i name → j < i →
      p.Asks corpus j name := by
    intro name i j single asked earlier
    by_contra skips
    exact shown (.skipped single asked earlier skips)
  have decodes := (covered.decodes_iff orderly).mpr full
  obtain ⟨decoded, run, -⟩ := values_of_filled primary gathers fills decodes
  exact ⟨decoded, run⟩

/-- Exactly the refused patterns are not shown as values, in a corpus that keeps its annotations by
name. -/
theorem values_refused_iff (named : corpus.annotations.NamedBy Annotation.id)
    (primary : Option String) (p : Pattern) :
    ((∃ e, p.values corpus primary = .error e) ↔ p.IsRefused corpus primary) ∧
      ((∃ decoded, p.values corpus primary = .ok decoded) ↔ ¬p.IsRefused corpus primary) := by
  cases run : p.values corpus primary with
  | ok decoded =>
    have shown := not_isRefused_of_values named run
    simp [shown]
  | error e =>
    have refused : p.IsRefused corpus primary := by
      by_contra shown
      obtain ⟨decoded, found⟩ := exists_values_of_not_isRefused named shown
      rw [run] at found
      cases found
    simp [refused]

def tagged : Corpus :=
  .ofDeclarations [⟨"word", "", .text, false, Annotation.sensitive⟩,
    ⟨"lemma", "", .text, false, Annotation.sensitive⟩,
    ⟨"pos", "", .pos, false, Annotation.sensitive⟩] [] 0 0

/-- A pattern with a tag at its first token, `[lemma="a" & pos="N"] [] [lemma="b"]`. -/
def taggedFirst : Pattern :=
  ⟨[.ofCondition (conjunction [⟨"lemma", "=", "a"⟩, ⟨"pos", "=", "N"⟩]), .any,
    .ofCondition (conjunction [⟨"lemma", "=", "b"⟩])], none⟩

/-- A pattern with a tag at its second token, `[] [pos="N"]`. -/
def taggedSecond : Pattern := ⟨[.any, .ofCondition (conjunction [⟨"pos", "=", "N"⟩])], none⟩

theorem values_refused_tags : tagged.annotations.NamedBy Annotation.id ∧
    ¬taggedFirst.IsRefused tagged none ∧ ∃ e, taggedSecond.values tagged none = .error e := by
  have named : tagged.annotations.NamedBy Annotation.id := Keyed.namedBy_index _ _
  refine ⟨named, ?_, ?_⟩
  · apply (values_refused_iff named none taggedFirst).2.mp
    exact ⟨.ofList
      [("lemma", ⟨"lemma", "a * b", false, .text⟩), ("pos", ⟨"pos", "N", false, .pos⟩)],
      by decide +kernel⟩
  · apply (values_refused_iff named none taggedSecond).1.mpr
    have asked : taggedSecond.Asks tagged 1 "pos" :=
      ⟨by decide, _, rfl, ⟨"pos", "=", "N"⟩, List.mem_singleton_self _, rfl⟩
    refine .skipped rfl asked Nat.zero_lt_one ?_
    rintro ⟨-, t, here, a, named, -⟩
    cases here
    exact absurd named List.not_mem_nil

end Concordance.Pattern
