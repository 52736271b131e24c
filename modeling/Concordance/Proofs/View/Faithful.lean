import Concordance.View.Classify
import Concordance.View.Compile
import Concordance.Proofs.Keyed
import Concordance.Proofs.Pattern.Layout
import Concordance.Proofs.Text.NonEmpty

/-! When the view of a query with a single constraint searches for that constraint. The simple and
the extended view show a regular expression as a word; a view of text shows it as it is. -/

namespace Concordance

open Text (isName isNameChar isWord spaced words)
open Wildcard (isOpen toRegex ofRegex)
open Pattern.Reader (isTagChar)

/-- Regular expressions that a word says: the word stands for just the expression, and leaves its
place open only where the expression holds of every word. -/
def Wildcard.isExpressible (regex : List Char) : Bool :=
  toRegex (ofRegex regex) == regex && (!isOpen (ofRegex regex) || regex == ['.', '*'])

def Pattern.single (name regex : String) : Pattern :=
  ⟨[.ofCondition (some (.attribute ⟨name, "=", regex⟩))], none⟩

/-- The view searches for the constraint, or for any word where all words satisfy it. -/
def View.Keeps (s : Settings) (name regex : String) (view : View) : Prop :=
  ∃ text t, (view.compile s).pattern = some text ∧
    Pattern.parse? (some text) s.primary = some ⟨[t], none⟩ ∧
    (t = .ofCondition (some (.attribute ⟨name, "=", regex⟩)) ∨ regex = ".*" ∧ t = .any)

namespace AnnotationValue

def ofRegex (corpus : Corpus) (name regex : String) : AnnotationValue :=
  ⟨name, String.ofList (Wildcard.ofRegex regex.toList), false, corpus.kindOf name⟩

theorem encode_of_isWord {v : AnnotationValue} (splits : v.kind.splitsWords)
    (word : isWord v.value.toList) :
    v.encode = [marked v.caseSensitive (encodeWord v.value.toList)] := by
  rw [encode_eq, encodeText_of_splitsWords splits, Text.words_of_isWord word]
  rfl

theorem isActive_of_isWord {v : AnnotationValue} (word : isWord v.value.toList) : v.isActive := by
  have text : v.value.toList = spaced [v.value.toList] := rfl
  refine isActive_spaced text ?_ (List.cons_ne_nil _ _)
  intro w member
  rwa [List.mem_singleton.mp member]

end AnnotationValue

namespace Pattern

variable {corpus : Corpus} {name regex : String}

theorem values_single (primary : Option String) (declared : corpus.declares name)
    (splits : (corpus.kindOf name).splitsWords)
    (unmarked : CaseMark.isMarked regex.toList = false) :
    (single name regex).values corpus primary =
      .ok (Keyed.ofList [(name, .ofRegex corpus name regex)]) := by
  have decoded := AnnotationValue.decode_single splits name unmarked
  simp [values, single, gatherTokens, Token.isPlain, Token.ofCondition, gather, declared, fill,
    decodeColumns, decoded, AnnotationValue.ofRegex, bind, Except.bind, pure, Except.pure,
    Keyed.get?, Keyed.insert, Keyed.put, Keyed.isEmpty, Keyed.values, Except.mapError,
    EmptyCollection.emptyCollection, Keyed.empty]

theorem layout_word {v : AnnotationValue} (splits : v.kind.splitsWords)
    (word : isWord v.value.toList) : layout [v] = [.ofCondition
      ((AnnotationValue.marked v.caseSensitive (AnnotationValue.encodeWord v.value.toList)).map
        fun r => .attribute ⟨v.id, "=", r⟩)] := by
  have active := AnnotationValue.isActive_of_isWord word
  have regexes := AnnotationValue.encode_of_isWord splits word
  have laid : layout [v] = [.ofCondition (conjunction ((AnnotationValue.marked v.caseSensitive
      (AnnotationValue.encodeWord v.value.toList)).map fun r => ⟨v.id, "=", r⟩).toList)] := by
    simp [layout, columns, active, regexes, overlay]
  rw [laid]
  cases AnnotationValue.encodeWord v.value.toList <;> rfl

theorem parse?_word (primary : String) (named : isName isNameChar name.toList)
    (splits : (corpus.kindOf name).splitsWords) (word : isWord regex.toList) :
    ∃ text, ofValues? [.ofRegex corpus name regex] none (some primary) = some text ∧
      parse? (some text) primary = some ⟨[.ofCondition ((AnnotationValue.marked false
        (AnnotationValue.encodeWord (ofRegex regex.toList))).map
          fun r => .attribute ⟨name, "=", r⟩)], none⟩ := by
  let v := AnnotationValue.ofRegex corpus name regex
  have text : v.value.toList = ofRegex regex.toList := String.toList_ofList
  have shown : isWord v.value.toList := by
    rw [text]
    exact Wildcard.isWord_ofRegex word
  have laid := layout_word (v := v) splits shown
  have regexes := AnnotationValue.encode_of_isWord (v := v) splits shown
  have writable : v.isWritable := by
    rw [AnnotationValue.isWritable, regexes, text]
    cases free : isOpen (ofRegex regex.toList) <;>
      simp [v, AnnotationValue.encodeWord, AnnotationValue.marked, AnnotationValue.ofRegex, free,
        named, CaseMark.mark, Wildcard.isRegular_toRegex]
  have filled : layout [v] ≠ [] := by
    rw [laid]
    exact List.cons_ne_nil _ _
  have within : (none : Option String).all (fun tag => isName isTagChar tag.toList) := rfl
  obtain ⟨pattern, written, read⟩ :=
    parse?_ofValues? primary filled (by simpa using fun _ => writable) within
  rw [ofValues, laid, text] at read
  exact ⟨pattern, written, read⟩

end Pattern

namespace View

variable {s : Settings} {name regex : String} {view : View}

theorem keeps_iff_of_token {text : String} {t : Token}
    (compiled : (view.compile s).pattern = some text)
    (read : Pattern.parse? (some text) s.primary = some ⟨[t], none⟩) :
    view.Keeps s name regex ↔
      t = .ofCondition (some (.attribute ⟨name, "=", regex⟩)) ∨ regex = ".*" ∧ t = .any := by
  constructor
  · intro ⟨text', t', compiled', read', kept⟩
    rw [compiled, Option.some.injEq] at compiled'
    subst compiled'
    rw [read, Option.some.injEq, Pattern.mk.injEq, List.singleton_inj] at read'
    rwa [read'.1]
  · intro kept
    exact ⟨text, t, compiled, read, kept⟩

theorem keeps_iff_of_word (named : isName isNameChar name.toList)
    (splits : (s.corpus.kindOf name).splitsWords) (word : isWord regex.toList)
    (compiled : (view.compile s).pattern =
      Pattern.ofValues? [.ofRegex s.corpus name regex] none (some s.primary)) :
    view.Keeps s name regex ↔ Wildcard.isExpressible regex.toList := by
  obtain ⟨text, written, read⟩ := Pattern.parse?_word s.primary named splits word
  rw [keeps_iff_of_token (compiled.trans written) read, Wildcard.isExpressible]
  cases free : isOpen (ofRegex regex.toList) with
  | true =>
    have token : AnnotationValue.encodeWord (ofRegex regex.toList) = none := by
      rw [AnnotationValue.encodeWord, if_pos free]
    rw [token]
    constructor
    · intro either
      rcases either with constrained | ⟨rfl, -⟩
      · cases constrained
      · rfl
    · intro expressible
      simp only [Bool.not_true, Bool.false_or, Bool.and_eq_true, beq_iff_eq] at expressible
      have star : regex = ".*" := String.toList_inj.mp expressible.2
      exact .inr ⟨star, rfl⟩
  | false =>
    have token : AnnotationValue.encodeWord (ofRegex regex.toList) =
        some (toRegex (ofRegex regex.toList)) := by
      rw [AnnotationValue.encodeWord, free]
      rfl
    rw [token]
    simp only [Bool.not_false, Bool.true_or, Bool.and_true, beq_iff_eq]
    constructor
    · intro either
      rcases either with same | ⟨-, free⟩
      · have value : String.ofList (toRegex (ofRegex regex.toList)) = regex := by
          simpa [AnnotationValue.marked, CaseMark.mark, Token.ofCondition] using same
        have chars := congrArg String.toList value
        rwa [String.toList_ofList] at chars
      · cases free
    · intro same
      refine .inl ?_
      rw [same]
      simp [AnnotationValue.marked, CaseMark.mark]

end View

namespace Query

variable {q : Query} {s : Settings} {name regex text : String}

theorem classify_without_groups (given : q.hasPattern) (ungrouped : q.groups.keys = []) :
    q.classify s = (((if q.fitsSimple s then q.simple? s else none).or
      (if q.hasGap then none else q.extended? s)).or
        (if q.hasGap then none else q.advanced? s)).getD (.expert q.pattern) := by
  have frequency : q.frequency? s = none := by
    simp [frequency?, ungrouped]
  have ngram : q.ngram? s = none := by
    simp [ngram?, groupedId, GroupSpec.groupBy, GroupSpec.plainKeys, ungrouped]
  have corpora : q.groups.groupBy.isEmpty := by
    simp [GroupSpec.groupBy, GroupSpec.plainKeys, ungrouped]
  simp only [classify, frequency, ngram, corpora, expert?, given, ite_self, if_true,
    List.findSome?_cons]
  cases (if q.fitsSimple s then q.simple? s else none) <;>
    cases (if q.hasGap then none else q.extended? s) <;>
    cases (if q.hasGap then none else q.advanced? s) <;> rfl

theorem classify_ungrouped (given : q.hasPattern) (ungrouped : q.groups.keys = [])
    (ungapped : q.hasGap = false) : q.classify s =
      (((if q.fitsSimple s then q.simple? s else none).or (q.extended? s)).or
        (q.advanced? s)).getD (.expert q.pattern) := by
  rw [classify_without_groups given ungrouped, ungapped]
  rfl

theorem hasPattern_of_parsed {p : Pattern} (parsed : q.parsed s = some p) : q.hasPattern := by
  rw [Query.parsed] at parsed
  cases given : q.pattern with
  | none =>
    rw [given] at parsed
    cases parsed
  | some text =>
    have filled : text ≠ "" := by
      intro same
      subst same
      rw [given] at parsed
      cases parsed
    simp [hasPattern, given, Text.isEmpty_eq_false filled]

section

variable (parsed : q.parsed s = some (.single name regex)) (declared : s.corpus.declares name)
  (splits : (s.corpus.kindOf name).splitsWords)
  (unmarked : CaseMark.isMarked regex.toList = false)

include parsed declared splits unmarked

theorem values_single :
    q.values s = some (Keyed.ofList [(name, .ofRegex s.corpus name regex)]) := by
  rw [Query.values, parsed]
  simp only [Pattern.values_single (some s.primary) declared splits unmarked]
  rfl

theorem simple?_single : q.simple? s =
    if name = s.primary then some (.simple (.ofRegex s.corpus name regex)) else none := by
  have values := values_single parsed declared splits unmarked
  rw [simple?, parsed, values]
  by_cases primary : name = s.primary <;>
    simp [Pattern.single, Keyed.ofList, Keyed.insert, Keyed.put, Keyed.empty, Keyed.get?, primary]

theorem extended?_single : q.extended? s =
    if name ∈ s.extendedIds then
      some (.extended (Keyed.ofList [(name, .ofRegex s.corpus name regex)]) none false)
    else none := by
  have values := values_single parsed declared splits unmarked
  rw [extended?, parsed, values]
  by_cases shown : name ∈ s.extendedIds <;>
    simp [Pattern.single, Keyed.ofList, Keyed.insert, Keyed.put, Keyed.empty, Keyed.isEmpty,
      Keyed.keys, shown]

theorem fitsSimple_single (word : isWord regex.toList) (unfiltered : q.hasFilters = false)
    (ungapped : q.hasGap = false) : q.fitsSimple s =
      (decide (name = s.primary) && !isOpen (ofRegex regex.toList)) := by
  have words : words (ofRegex regex.toList) = [ofRegex regex.toList] :=
    Text.words_of_isWord (Wildcard.isWord_ofRegex word)
  rw [fitsSimple, simple?_single parsed declared splits unmarked]
  by_cases primary : name = s.primary <;>
    simp [primary, AnnotationValue.ofRegex, words, unfiltered, ungapped]

end

theorem textView_keeps (pattern : q.pattern = some text)
    (read : Pattern.parse? (some text) s.primary = some (.single name regex)) :
    ((q.advanced? s).getD (.expert q.pattern)).Keeps s name regex := by
  have given : text ≠ "" := by
    intro same
    subst same
    cases read
  have kept (view : View) (compiled : (view.compile s).pattern = Text.nonEmpty? q.pattern) :
      view.Keeps s name regex := by
    rw [pattern, Text.nonEmpty?_of_ne (by simpa using given)] at compiled
    exact (View.keeps_iff_of_token compiled read).mpr (.inl rfl)
  rw [advanced?]
  split
  · apply kept
    rw [Option.getD_none, View.compile]
  · apply kept
    rw [Option.getD_some, View.compile]

/-- An ungrouped, unfiltered query for a single constraint on a word is classified without a change
of its regular expression just where a word says the expression or a text view is chosen. -/
theorem classify_keeps_iff (pattern : q.pattern = some text)
    (read : Pattern.parse? (some text) s.primary = some (.single name regex))
    (ungrouped : q.groups.keys = []) (unfiltered : q.hasFilters = false)
    (ungapped : q.hasGap = false) (named : isName isNameChar name.toList)
    (declared : s.corpus.declares name) (splits : (s.corpus.kindOf name).splitsWords)
    (word : isWord regex.toList) (unmarked : CaseMark.isMarked regex.toList = false) :
    (q.classify s).Keeps s name regex ↔ Wildcard.isExpressible regex.toList ∨
      name ∉ s.extendedIds ∧ (name ≠ s.primary ∨ isOpen (ofRegex regex.toList)) := by
  have parsed : q.parsed s = some (.single name regex) := by
    rw [Query.parsed, pattern, read]
  have simple := simple?_single parsed declared splits unmarked
  have extended := extended?_single parsed declared splits unmarked
  have fits := fitsSimple_single parsed declared splits unmarked word unfiltered ungapped
  rw [classify_ungrouped (hasPattern_of_parsed parsed) ungrouped ungapped, simple, extended, fits]
  by_cases primary : name = s.primary ∧ isOpen (ofRegex regex.toList) = false
  · have shown : (View.simple (.ofRegex s.corpus name regex)).Keeps s name regex ↔
        Wildcard.isExpressible regex.toList :=
      View.keeps_iff_of_word named splits word (by rw [View.compile])
    simpa [primary] using shown
  have unfit : (decide (name = s.primary) && !isOpen (ofRegex regex.toList)) = false := by
    simpa using primary
  have other : name ≠ s.primary ∨ isOpen (ofRegex regex.toList) = true := by
    by_cases same : name = s.primary
    · refine .inr ?_
      simpa [same] using unfit
    · exact .inl same
  by_cases allowed : name ∈ s.extendedIds
  · have shown : (View.extended (Keyed.ofList [(name, .ofRegex s.corpus name regex)]) none
        false).Keeps s name regex ↔ Wildcard.isExpressible regex.toList :=
      View.keeps_iff_of_word named splits word (by rw [View.compile, Keyed.values_single])
    simpa [unfit, allowed] using shown
  · have kept := textView_keeps pattern read
    simp only [unfit, allowed, Bool.false_eq_true, if_false, Option.none_or, not_false_eq_true,
      true_and, other, or_true, iff_true]
    exact kept

def ofText (text : String) : Query := ⟨some text, ∅, ⟨[]⟩, none, none, none⟩

def plainSettings : Settings :=
  ⟨.ofDeclarations [⟨"word", "Word", .text, false, Annotation.sensitive⟩] [] 0 0, none, [], true, 5⟩

/-- A wildcard after literal text is a word. -/
theorem classify_keeps_wildcard :
    Pattern.parse? (some "[word=\"a.*\"]") plainSettings.primary = some (.single "word" "a.*") ∧
      ((ofText "[word=\"a.*\"]").classify plainSettings).Keeps plainSettings "word" "a.*" :=
  have read : Pattern.parse? (some "[word=\"a.*\"]") plainSettings.primary =
      some (.single "word" "a.*") := by
    decide +kernel
  ⟨read, (classify_keeps_iff rfl read rfl rfl rfl (by decide) (by decide +kernel)
    (by decide +kernel) (by decide) (by decide)).mpr (.inl (by decide))⟩

/-- A repeated character is shown as a word with a wildcard, which stands for more. -/
theorem classify_widens_repetition :
    Pattern.parse? (some "[word=\"a*\"]") plainSettings.primary = some (.single "word" "a*") ∧
      isName isNameChar "word".toList ∧ plainSettings.corpus.declares "word" ∧
      (plainSettings.corpus.kindOf "word").splitsWords ∧ isWord "a*".toList ∧
      CaseMark.isMarked "a*".toList = false ∧ Quoted.isRegular "a*".toList ∧
      ¬((ofText "[word=\"a*\"]").classify plainSettings).Keeps plainSettings "word" "a*" := by
  have read : Pattern.parse? (some "[word=\"a*\"]") plainSettings.primary =
      some (.single "word" "a*") := by
    decide +kernel
  have compiled :
      (((ofText "[word=\"a*\"]").classify plainSettings).compile plainSettings).pattern =
        some "\"a.*\"" := by
    decide +kernel
  have other : Pattern.parse? (some "\"a.*\"") plainSettings.primary =
      some (.single "word" "a.*") := by
    decide +kernel
  refine ⟨read, by decide, by decide +kernel, by decide +kernel, by decide, by decide, by decide,
    ?_⟩
  rw [View.keeps_iff_of_token compiled other]
  decide

end Query

end Concordance
