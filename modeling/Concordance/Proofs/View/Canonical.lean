import Concordance.Proofs.Pattern.Canonical
import Concordance.Proofs.View.Chosen

/-! How a text and the canonical text of its pattern are classified. The canonical text nests chains
to the left; the values of a pattern do not depend on how its chains nest. -/

namespace Concordance

open Text (isName isNameChar)

/-! ### Values and chains -/

namespace Pattern

variable (corpus : Corpus)

theorem gather_graft (i : Nat) (op : String) (a b : Condition) (cols : Columns) :
    gather corpus i (.graft op a b) cols = gather corpus i (.binary op a b) cols := by
  induction b with
  | «attribute» x => rfl
  | negation e => rfl
  | binary op' l r ihl ihr =>
    by_cases same : op' = op
    · subst same
      by_cases and : op' = "&"
      · subst and
        simp only [gather, ne_eq, not_true_eq_false, if_false] at ihl
        simp only [Condition.graft_chain, gather, ihl, ne_eq, not_true_eq_false, if_false,
          bind_assoc]
      · simp only [Condition.graft_chain, gather, and, ne_eq, not_false_eq_true, if_true]
    · rw [Condition.graft_of_not_chain a (Condition.not_isChain_binary l r same)]

theorem gather_leftNested (i : Nat) (c : Condition) (cols : Columns) :
    gather corpus i c.leftNested cols = gather corpus i c cols := by
  induction c generalizing cols with
  | «attribute» a => rfl
  | negation e => rfl
  | binary op l r ihl ihr =>
    rw [Condition.leftNested_binary, gather_graft]
    simp only [gather, ihl, ihr]

theorem gatherTokens_leftNested (i : Nat) (ts : List Token) (cols : Columns) :
    gatherTokens corpus i (ts.map Token.leftNested) cols = gatherTokens corpus i ts cols := by
  induction ts generalizing i cols with
  | nil => rfl
  | cons t ts ih =>
    have plain : t.leftNested.isPlain = t.isPlain := rfl
    have condition : t.leftNested.condition = t.condition.map Condition.leftNested := rfl
    rw [List.map_cons, gatherTokens, gatherTokens, plain, condition]
    cases t.condition with
    | none => simp only [Option.map_none, ih]
    | some c => simp only [Option.map_some, gather_leftNested, ih]

theorem values_leftNested (p : Pattern) (primary : Option String) :
    p.leftNested.values corpus primary = p.values corpus primary := by
  have length : p.leftNested.tokens.length = p.tokens.length := List.length_map _
  rw [values, values, length, leftNested, gatherTokens_leftNested]

end Pattern

/-! ### Queries with the same values -/

/-- What is shown of two texts of one pattern: the same values, or the texts themselves. -/
inductive View.SameButText (text text' : String) : View → View → Prop
  | values {v : View} (shown : v.showsValues) : SameButText text text' v v
  | advanced : SameButText text text' (.advanced (some text)) (.advanced (some text'))
  | expert : SameButText text text' (.expert (some text)) (.expert (some text'))

theorem View.SameButText.mode_eq {text text' : String} {v v' : View}
    (same : SameButText text text' v v') : v'.mode = v.mode := by
  cases same <;> rfl

theorem View.SameButText.eq_of_showsValues {text text' : String} {v v' : View}
    (same : SameButText text text' v v') (shown : v.showsValues) : v' = v := by
  cases same with
  | values => rfl
  | advanced | expert => cases shown

namespace Query

variable {q q' : Query} {s : Settings} {p p' : Pattern} {text text' : String}

theorem showsValues_simple? {v : View} (shown : q.simple? s = some v) : v.showsValues := by
  have mode := mode_simple? shown
  cases v with
  | simple | extended => rfl
  | advanced | expert | frequency | ngram | corpora => cases mode

theorem showsValues_extended? {v : View} (shown : q.extended? s = some v) : v.showsValues := by
  have mode := mode_extended? shown
  cases v with
  | simple | extended => rfl
  | advanced | expert | frequency | ngram | corpora => cases mode

section

variable (parsed : q.parsed s = some p) (parsed' : q'.parsed s = some p')
  (within : p'.within = p.within) (values : q'.values s = q.values s)

include parsed parsed' within values

theorem simple?_congr : q'.simple? s = q.simple? s := by
  rw [simple?, simple?, parsed, parsed', values]
  cases q.values s with
  | none => rfl
  | some values => simp only [within]

theorem extended?_congr : q'.extended? s = q.extended? s := by
  rw [extended?, extended?, parsed, parsed', values]
  cases q.values s with
  | none => rfl
  | some values => simp only [within]

theorem fitsSimple_congr (filters : q'.filters = q.filters) (gap : q'.gap = q.gap) :
    q'.fitsSimple s = q.fitsSimple s := by
  rw [fitsSimple, fitsSimple, simple?_congr parsed parsed' within values, hasFilters, hasFilters,
    filters, hasGap, hasGap, gap]

theorem classify_sameButText (pattern : q.pattern = some text) (pattern' : q'.pattern = some text')
    (ungrouped : q.groups.keys = []) (groups : q'.groups = q.groups)
    (filters : q'.filters = q.filters) (gap : q'.gap = q.gap) :
    View.SameButText text text' (q.classify s) (q'.classify s) := by
  have ungrouped' : q'.groups.keys = [] := by rw [groups, ungrouped]
  have simple {v : View} (shown : (if q.fitsSimple s then q.simple? s else none) = some v) :
      v.showsValues :=
    showsValues_simple? (Option.ite_none_right_eq_some.mp shown).2
  have extended {v : View} (shown : (if q.hasGap then none else q.extended? s) = some v) :
      v.showsValues :=
    showsValues_extended? (Option.ite_none_left_eq_some.mp shown).2
  have hasGap : q'.hasGap = q.hasGap := by rw [Query.hasGap, Query.hasGap, gap]
  rw [classify_without_groups (hasPattern_of_parsed parsed) ungrouped,
    classify_without_groups (hasPattern_of_parsed parsed') ungrouped', hasGap,
    fitsSimple_congr parsed parsed' within values filters gap,
    simple?_congr parsed parsed' within values, extended?_congr parsed parsed' within values]
  cases shown : (if q.fitsSimple s then q.simple? s else none) with
  | some v => exact .values (simple shown)
  | none =>
    cases shown : (if q.hasGap then none else q.extended? s) with
    | some v => exact .values (extended shown)
    | none =>
      rw [advanced?, advanced?, parsed, parsed', pattern, pattern']
      cases q.hasGap <;> cases s.advancedEnabled <;> first | exact .advanced | exact .expert

end

theorem parsed_canonical (named : isName isNameChar s.primary.toList) (parsed : q.parsed s = some p)
    (free : p.escapesQuote = false) :
    { q with pattern := some (p.text (some s.primary)) }.parsed s = some p.leftNested := by
  have readable := readable_of_parsed parsed
  have read : Pattern.parse (p.text (some s.primary)) s.primary = .ok p.leftNested :=
    Pattern.parse_text_eq (readable.isWritable named free) (by rintro name ⟨⟩; rfl)
  have filled : p.leftNested.tokens.isEmpty = false := by
    rw [List.isEmpty_eq_false_iff, Pattern.leftNested]
    exact fun empty => readable.filled (List.map_eq_nil_iff.mp empty)
  simp only [Query.parsed, Pattern.parse?, read, filled]
  rfl

/-- A pattern is classified as its canonical text is: the same values are shown of both, or each is
shown as it is written. -/
theorem classify_canonical (named : isName isNameChar s.primary.toList)
    (pattern : q.pattern = some text) (parsed : q.parsed s = some p)
    (free : p.escapesQuote = false) (ungrouped : q.groups.keys = []) :
    let canonical := p.text (some s.primary)
    ({ q with pattern := some canonical }.classify s).mode = (q.classify s).mode ∧
      View.SameButText text canonical (q.classify s)
        ({ q with pattern := some canonical }.classify s) := by
  intro canonical
  have parsed' : { q with pattern := some canonical }.parsed s = some p.leftNested :=
    parsed_canonical named parsed free
  have values : { q with pattern := some canonical }.values s = q.values s := by
    simp only [Query.values, parsed, parsed', Pattern.values_leftNested]
  have same := classify_sameButText parsed parsed' rfl values pattern rfl ungrouped rfl rfl rfl
  exact ⟨same.mode_eq, same⟩

def nestedPhrase : Query :=
  { ofText "[word='c\"at.*' AND (pos=\"N\" & x=\"a\")] []" with
    filters := .index FilterValue.id [⟨"genre", .select, ["poetry"]⟩] }

def nestedPattern : Pattern :=
  ⟨[.ofCondition (some (.binary "&" (.attribute ⟨"word", "=", "c\"at.*"⟩)
      (.binary "&" (.attribute ⟨"pos", "=", "N"⟩) (.attribute ⟨"x", "=", "a"⟩)))), .any], none⟩

theorem classify_canonical_nestedPhrase :
    nestedPhrase.parsed taggedSettings = some nestedPattern ∧
      nestedPattern.text (some taggedSettings.primary) =
        "[word=\"c\\\"at.*\" & pos=\"N\" & x=\"a\"][]" ∧
      (nestedPhrase.classify taggedSettings).mode = .search .extended ∧
      { nestedPhrase with pattern := some "[word=\"c\\\"at.*\" & pos=\"N\" & x=\"a\"][]" }.classify
          taggedSettings = nestedPhrase.classify taggedSettings := by
  have parsed : nestedPhrase.parsed taggedSettings = some nestedPattern := by decide +kernel
  have text : nestedPattern.text (some taggedSettings.primary) =
      "[word=\"c\\\"at.*\" & pos=\"N\" & x=\"a\"][]" := by
    decide +kernel
  have named : isName isNameChar taggedSettings.primary.toList := by decide +kernel
  have free : nestedPattern.escapesQuote = false := by decide +kernel
  have mode : (nestedPhrase.classify taggedSettings).mode = .search .extended := by decide +kernel
  have shown : (nestedPhrase.classify taggedSettings).showsValues := by decide +kernel
  have same := (classify_canonical named rfl parsed free rfl).2
  rw [text] at same
  exact ⟨parsed, text, mode, same.eq_of_showsValues shown⟩

end Query

end Concordance
