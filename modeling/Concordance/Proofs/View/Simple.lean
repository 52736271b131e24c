import Concordance.Proofs.Pattern.Unconstrained
import Concordance.Proofs.View.Extended
import Concordance.Proofs.View.Faithful

/-! The simple view is a fixed point of classification: the pattern of its words is shown as these
words again. -/

namespace Concordance

open Text (isName isNameChar isWord spaced words)
open Wildcard (isOpen canonical)
open Pattern.Reader (isTagChar)

theorem eq_of_settled {column other : List (Option String)} (same : settled column = settled other)
    (length : column.length = other.length) : column = other := by
  rw [← settled_append_pad column, ← settled_append_pad other, same, length]

namespace AnnotationValue

variable {v : AnnotationValue}

theorem isActive_iff_words : v.isActive ↔ words v.value.toList ≠ [] := by
  rw [isActive, Bool.not_eq_true', List.isEmpty_eq_false_iff, Ne, Ne, Text.words_eq_nil_iff_trim]

theorem encode_of_kind {kind : AnnotationKind} (splits : v.kind.splitsWords)
    (splits' : kind.splitsWords) : { v with kind := kind }.encode = v.encode := by
  rw [encode_eq, encode_eq, encodeText_of_splitsWords splits, encodeText_of_splitsWords splits']

def isUnconstrained (v : AnnotationValue) : Bool := (words v.value.toList).all isOpen

theorem isRecoverable_eq (splits : v.kind.splitsWords) :
    v.isRecoverable = !v.isUnconstrained := by
  rw [isRecoverable_of_splitsWords splits, isUnconstrained, List.not_all_eq_any_not]

theorem encode_of_isUnconstrained (splits : v.kind.splitsWords) (free : v.isUnconstrained) :
    v.encode = List.replicate v.encode.length none := by
  rw [List.eq_replicate_iff]
  refine ⟨rfl, fun cell member => ?_⟩
  rw [encode_eq, encodeText_of_splitsWords splits, List.map_map] at member
  obtain ⟨w, given, rfl⟩ := List.mem_map.mp member
  have here : isOpen w := List.all_eq_true.mp free w given
  rw [Function.comp, encodeWord, if_pos here]
  rfl

theorem isWritable_of_splitsWords (named : isName isNameChar v.id.toList)
    (splits : v.kind.splitsWords) : v.isWritable := by
  rw [isWritable, named, Bool.true_and, List.all_eq_true]
  intro cell member
  rw [encode_eq, encodeText_of_splitsWords splits] at member
  obtain ⟨regex, given, rfl⟩ := List.mem_map.mp member
  cases regex with
  | none => rfl
  | some r => simpa [marked, CaseMark.isRegular_mark] using (mem_encodeWord given).2

theorem words_normal (splits : v.kind.splitsWords) :
    words v.normal.value.toList = (words v.value.toList).map canonical := by
  rw [normal_of_splitsWords splits, String.toList_ofList]
  exact Text.words_spaced (isWord_of_mem_canonical fun w => Text.isWord_of_mem_words)

theorem isActive_of_isRecoverable (splits : v.kind.splitsWords) (h : v.isRecoverable) :
    v.isActive := by
  rw [isRecoverable_of_splitsWords splits] at h
  rw [isActive_iff_words]
  intro none
  rw [none] at h
  cases h

theorem isActive_normal_of_splitsWords (splits : v.kind.splitsWords) (active : v.isActive) :
    v.normal.isActive := by
  rw [isActive_iff_words] at active ⊢
  rw [words_normal splits, Ne, List.map_eq_nil_iff]
  exact active

theorem encode_ne_nil_of_isActive (splits : v.kind.splitsWords) (active : v.isActive) :
    v.encode ≠ [] := by
  rw [encode_eq, encodeText_of_splitsWords splits, Ne, List.map_eq_nil_iff, List.map_eq_nil_iff]
  exact isActive_iff_words.mp active

theorem isActive_stars {corpus : Corpus} {name : String} {n : Nat} (positive : 0 < n) :
    (stars corpus name n).isActive := by
  rw [isActive_iff_words, words_stars, ← List.length_pos_iff, List.length_replicate]
  exact positive

end AnnotationValue

namespace Pattern

variable {s : Settings} {v : AnnotationValue}

theorem columns_single (active : v.isActive) : columns [v] = overlay v.id v.encode [] := by
  rw [columns, List.filter_cons_of_pos active, List.filter_nil, List.foldl_cons, List.foldl_nil]

theorem length_columns_single (active : v.isActive) : (columns [v]).length = v.encode.length := by
  rw [columns_single active, length_overlay, List.length_nil, Nat.max_zero]

theorem layout_of_kind {kind : AnnotationKind} (splits : v.kind.splitsWords)
    (splits' : kind.splitsWords) : layout [{ v with kind := kind }] = layout [v] := by
  cases active : v.isActive with
  | false =>
    have inactive : { v with kind := kind }.isActive = false := active
    simp [layout, columns, active, inactive]
  | true =>
    rw [layout, layout, columns_single active, columns_single (v := { v with kind := kind }) active,
      AnnotationValue.encode_of_kind splits splits']

theorem layout_congr {w : AnnotationValue} (id : v.id = w.id) (active : v.isActive)
    (active' : w.isActive) (same : v.encode = w.encode) : layout [v] = layout [w] := by
  rw [layout, layout, columns_single active, columns_single active', id, same]

theorem isConjunction_of_mem_layout {values : List AnnotationValue} :
    ∀ t ∈ layout values, t.isConjunction := by
  intro t member
  obtain ⟨attributes, column, rfl⟩ := List.mem_map.mp member
  apply isConjunction_conjunction
  intro a asked
  obtain ⟨v, -, -, i, asks⟩ := exists_of_mem_columns column asked
  exact (AnnotationValue.constraint?_eq_some_iff.mp asks).2.1

theorem exists_of_mem_layout {values : List AnnotationValue} {t : Token}
    (member : t ∈ layout values)
    {a : Attribute} (asked : a ∈ t.attributes) :
    ∃ v ∈ values, v.isActive ∧ v.id = a.name ∧ some a.value ∈ v.encode := by
  obtain ⟨attributes, column, rfl⟩ := List.mem_map.mp member
  rw [attributes_conjunction] at asked
  obtain ⟨v, given, active, i, asks⟩ := exists_of_mem_columns column asked
  exact ⟨v, given, active, (AnnotationValue.name_of_constraint? asks).symm,
    AnnotationValue.mem_encode_of_constraint? asks⟩

theorem exists_asked {values : List AnnotationValue} (given : v ∈ values) (active : v.isActive)
    {regex : String} (constrains : some regex ∈ v.encode) :
    ∃ t ∈ layout values, ⟨v.id, "=", regex⟩ ∈ t.attributes := by
  obtain ⟨i, bound, cell⟩ := List.getElem_of_mem constrains
  have inside : i < (columns values).length :=
    (lt_length_columns values i).mpr ⟨v, given, active, bound⟩
  refine ⟨_, List.mem_map_of_mem (List.getElem_mem inside), ?_⟩
  rw [attributes_conjunction, getElem_columns values inside, List.mem_filterMap]
  refine ⟨v, List.mem_filter.mpr ⟨given, active⟩, ?_⟩
  rw [AnnotationValue.constraint?_eq_some_iff, List.getElem?_eq_getElem bound, cell]
  exact ⟨rfl, rfl, rfl⟩

theorem ofValues?_ne_of_free {values others : List AnnotationValue} (primary : String)
    (writable : ∀ v ∈ values, v.isActive → v.isWritable) (given : v ∈ values) (active : v.isActive)
    {regex : String} (constrains : some regex ∈ v.encode)
    (free : ∀ w ∈ others, ∀ cell ∈ w.encode, cell = none) :
    ofValues? others none (some primary) ≠ ofValues? values none (some primary) := by
  intro same
  have within : (none : Option String).all fun tag => isName isTagChar tag.toList := rfl
  have laid : layout values ≠ [] := layout_ne_nil given active (List.ne_nil_of_mem constrains)
  obtain ⟨text, compiled, read⟩ := parse?_ofValues? primary laid writable within
  rw [compiled] at same
  have laid' : layout others ≠ [] := by
    intro empty
    rw [ofValues?, empty] at same
    cases same
  have writable' : ∀ t ∈ layout others, t.isWritableUnder (some primary) := by
    intro t member
    obtain ⟨attributes, column, rfl⟩ := List.mem_map.mp member
    have none : attributes = [] := by
      rw [List.eq_nil_iff_forall_not_mem]
      intro a asked
      obtain ⟨w, other, -, i, asks⟩ := exists_of_mem_columns column asked
      cases free w other _ (AnnotationValue.mem_encode_of_constraint? asks)
    rw [none]
    rfl
  obtain ⟨text', compiled', read'⟩ := parse?_of_isWritableUnder laid' writable' within
  rw [compiled'] at same
  rw [same, read, Option.some.injEq, ofValues, ofValues, mk.injEq] at read'
  obtain ⟨t, member, asks⟩ := exists_asked given active constrains
  rw [read'.1] at member
  obtain ⟨w, other, -, -, constrains'⟩ := exists_of_mem_layout member asks
  cases free w other _ constrains'

theorem carrier_primary (named : s.primary ≠ "")
    (splits : (s.corpus.kindOf s.primary).splitsWords) :
    carrier s.corpus (some s.primary) = .ok s.primary := by
  have given : Text.nonEmpty? (some s.primary) = some s.primary :=
    Text.nonEmpty?_of_ne fun empty => named (Option.some.inj empty)
  rw [carrier, given, Option.getD_some, if_pos splits]

theorem values_words (named : isName isNameChar v.id.toList) (declared : s.corpus.declares v.id)
    (kind : v.kind = s.corpus.kindOf v.id) (splits : v.kind.splitsWords) (h : v.isRecoverable) :
    (ofValues [v] none).values s.corpus (some s.primary) =
      .ok (Keyed.ofList [(v.id, v.normal)]) := by
  have active := AnnotationValue.isActive_of_isRecoverable splits h
  have own : (Keyed.ofList [(v.id, v)]).get? v.id = some v := Keyed.get?_single_iff.mpr ⟨rfl, rfl⟩
  have only {name : String} {w : AnnotationValue}
      (found : (Keyed.ofList [(v.id, v)]).get? name = some w) : name = v.id ∧ w = v :=
    Keyed.get?_single_iff.mp found
  have whole : View.Recoverable s (Keyed.ofList [(v.id, v)]) none := {
    aligned := fun name w found _ => by rw [(only found).2, (only found).1]
    named := fun name w found _ => (only found).1 ▸ named
    declared := fun name w found _ => (only found).1 ▸ declared
    kind := fun name w found _ => by rw [(only found).2, (only found).1, kind]
    recoverable := fun name w found _ => (only found).2 ▸ h
    within := rfl
    active := ⟨v.id, v, own, active⟩ }
  obtain ⟨filled, decoded, run, covering, -, lookup⟩ := whole.exists_decoded
  rw [Keyed.values_single, length_columns_single active] at covering
  -- A single column is constrained, so it is the one that reaches the last token.
  have single {name : String} {cells : List (Option String)}
      (found : filled.get? name = some cells) : name = v.id := by
    obtain ⟨w, given, -⟩ := exists_of_filled covering found
    exact (only given).1
  have reaches : filled.get? v.id = some v.encode := by
    obtain ⟨name, cells, found, long⟩ := covering.reaches
    have same := covering.same name cells found
    rw [single found, column_of_active own active] at same
    rw [← single found, found, eq_of_settled same long]
  have decodes : AnnotationValue.decode v.id v.encode (s.corpus.kindOf v.id) = .ok v.normal := by
    rw [← kind]
    exact AnnotationValue.decode_encode_eq h
  have values : decoded = Keyed.ofList [(v.id, v.normal)] := by
    apply Keyed.eq_single
    intro name w
    rw [lookup]
    constructor
    · intro ⟨cells, found, decodes'⟩
      have here := single found
      subst here
      rw [reaches, Option.some.injEq] at found
      subst found
      rw [decodes, Except.ok.injEq] at decodes'
      exact ⟨rfl, decodes'.symm⟩
    · rintro ⟨rfl, rfl⟩
      exact ⟨_, reaches, decodes⟩
  rw [← values]
  exact run

end Pattern

namespace Query

variable {q : Query} {s : Settings} {v : AnnotationValue} {p : Pattern}

theorem simple?_of_values (parsed : q.parsed s = some p) (within : p.within = none)
    (values : p.values s.corpus (some s.primary) = .ok (Keyed.ofList [(s.primary, v)])) :
    q.simple? s = some (.simple v) := by
  have shown : q.values s = some (Keyed.ofList [(s.primary, v)]) := by
    rw [Query.values, parsed]
    simp only [values]
    rfl
  have own : (Keyed.ofList [(s.primary, v)]).get? s.primary = some v :=
    Keyed.get?_single_iff.mpr ⟨rfl, rfl⟩
  rw [simple?, parsed, shown]
  simp only [within, own, Keyed.entries_single]
  rfl

theorem compile_simple_congr {w : AnnotationValue}
    (same : Pattern.layout [w] = Pattern.layout [v]) :
    ((View.simple w).compile s).pattern = ((View.simple v).compile s).pattern := by
  simp only [View.compile, Pattern.ofValues?, same]

section Words

variable (own : v.id = s.primary) (kind : v.kind = s.corpus.kindOf s.primary)
  (splits : v.kind.splitsWords) (named : isName isNameChar s.primary.toList)

include own splits named

theorem isWritable_single : ∀ w ∈ [v], w.isActive → w.isWritable := by
  intro w member _
  rw [List.mem_singleton.mp member]
  exact AnnotationValue.isWritable_of_splitsWords (own ▸ named) splits

theorem parsed_simple (active : v.isActive)
    (pattern : q.pattern = ((View.simple v).compile s).pattern) :
    q.parsed s = some (Pattern.ofValues [v] none) := by
  have laid : Pattern.layout [v] ≠ [] :=
    Pattern.layout_ne_nil (List.mem_singleton_self v) active
      (AnnotationValue.encode_ne_nil_of_isActive splits active)
  have within : (none : Option String).all fun tag => isName isTagChar tag.toList := rfl
  obtain ⟨text, compiled, read⟩ :=
    Pattern.parse?_ofValues? s.primary laid (isWritable_single own splits named) within
  have given : q.pattern = some text := pattern.trans compiled
  rw [Query.parsed, given, read]

include kind

theorem simple?_normal (declared : s.corpus.declares s.primary) (recoverable : v.isRecoverable)
    (pattern : q.pattern = ((View.simple v).compile s).pattern) :
    q.simple? s = some (.simple v.normal) := by
  have active := AnnotationValue.isActive_of_isRecoverable splits recoverable
  have values := Pattern.values_words (own ▸ named) (own ▸ declared) (own ▸ kind) splits recoverable
  rw [own] at values
  exact simple?_of_values (parsed_simple own splits named active pattern) rfl values

theorem simple?_stars (active : v.isActive)
    (pattern : q.pattern = ((View.simple v).compile s).pattern)
    (dropped : s.corpus.declares s.primary = false ∨ v.isUnconstrained) :
    q.simple? s = some (.simple (.stars s.corpus s.primary v.encode.length)) := by
  have filled : s.primary ≠ "" := by
    intro empty
    rw [empty] at named
    cases named
  have laid : Pattern.layout [v] ≠ [] :=
    Pattern.layout_ne_nil (List.mem_singleton_self v) active
      (AnnotationValue.encode_ne_nil_of_isActive splits active)
  have tokens : (Pattern.layout [v]).length = v.encode.length := by
    rw [Pattern.layout, List.length_map, Pattern.length_columns_single active]
  have undeclared : ∀ t ∈ Pattern.layout [v], ∀ a ∈ t.attributes,
      s.corpus.declares a.name = false := by
    intro t member a asks
    obtain ⟨u, only, -, id, constrains⟩ := Pattern.exists_of_mem_layout member asks
    rw [List.mem_singleton.mp only] at id constrains
    rcases dropped with undeclared | unconstrained
    · rw [← id, own, undeclared]
    · rw [AnnotationValue.encode_of_isUnconstrained splits unconstrained] at constrains
      cases List.eq_of_mem_replicate constrains
  apply simple?_of_values (parsed_simple own splits named active pattern) rfl
  rw [Pattern.values_undeclared Pattern.isConjunction_of_mem_layout undeclared laid
    (Pattern.carrier_primary filled (kind ▸ splits)) (kind ▸ splits), Pattern.ofValues, tokens]

theorem compile_simple?_iff (active : v.isActive)
    (pattern : q.pattern = ((View.simple v).compile s).pattern) :
    ∃ w, q.simple? s = some (.simple w) ∧ (((View.simple w).compile s).pattern = q.pattern ↔
      s.corpus.declares s.primary ∨ v.isUnconstrained) := by
  have words := AnnotationValue.encode_ne_nil_of_isActive splits active
  have starred : (AnnotationValue.stars s.corpus s.primary v.encode.length).isActive :=
    AnnotationValue.isActive_stars (List.length_pos_iff.mpr words)
  have free : (AnnotationValue.stars s.corpus s.primary v.encode.length).encode =
      List.replicate v.encode.length none := AnnotationValue.encode_stars (kind ▸ splits)
  cases unconstrained : v.isUnconstrained with
  | true =>
    have encoded := AnnotationValue.encode_of_isUnconstrained splits unconstrained
    refine ⟨_, simple?_stars own kind splits named active pattern (.inr unconstrained),
      iff_of_true ?_ (.inr rfl)⟩
    rw [pattern, compile_simple_congr]
    exact Pattern.layout_congr own.symm starred active (free.trans encoded.symm)
  | false =>
    have recoverable : v.isRecoverable := by
      rw [AnnotationValue.isRecoverable_eq splits, unconstrained]
      rfl
    cases declared : s.corpus.declares s.primary with
    | true =>
      refine ⟨_, simple?_normal own kind splits named declared recoverable pattern,
        iff_of_true ?_ (.inl rfl)⟩
      have normal := AnnotationValue.isActive_normal_of_splitsWords splits active
      rw [pattern, compile_simple_congr]
      exact Pattern.layout_congr rfl normal active (AnnotationValue.encode_normal v)
    | false =>
      refine ⟨_, simple?_stars own kind splits named active pattern (.inl declared), ?_⟩
      obtain ⟨regex, constrains⟩ :=
        settled_ne_nil_iff.mp (AnnotationValue.settled_encode_ne_nil recoverable)
      refine iff_of_false ?_ (by simp)
      rw [pattern]
      apply Pattern.ofValues?_ne_of_free s.primary (isWritable_single own splits named)
        (List.mem_singleton_self v) active constrains
      intro u only cell member
      rw [List.mem_singleton.mp only, free] at member
      exact List.eq_of_mem_replicate member

end Words

/-- A simple search for some word that constrains its place is classified as itself, with single
spaces between its words and one look for all words that constrain nothing. -/
theorem classify_simple {value : String} {kind : AnnotationKind}
    (named : isName isNameChar s.primary.toList) (declared : s.corpus.declares s.primary)
    (splits : (s.corpus.kindOf s.primary).splitsWords) (typed : kind.splitsWords)
    (constrains : ∃ w ∈ words value.toList, isOpen w = false)
    (pattern : q.pattern = ((View.simple ⟨s.primary, value, false, kind⟩).compile s).pattern)
    (ungrouped : q.groups.keys = []) (unfiltered : q.hasFilters = false)
    (ungapped : q.hasGap = false) :
    q.classify s = .simple ⟨s.primary, String.ofList (spaced ((words value.toList).map canonical)),
      false, s.corpus.kindOf s.primary⟩ := by
  let v : AnnotationValue := ⟨s.primary, value, false, s.corpus.kindOf s.primary⟩
  obtain ⟨w, member, closed⟩ := constrains
  have recoverable : v.isRecoverable := by
    rw [AnnotationValue.isRecoverable_of_splitsWords splits]
    exact List.any_eq_true.mpr ⟨w, member, by rw [closed]; rfl⟩
  have active := AnnotationValue.isActive_of_isRecoverable splits recoverable
  have given : q.pattern = ((View.simple v).compile s).pattern := by
    rw [pattern]
    exact compile_simple_congr (Pattern.layout_of_kind (v := v) splits typed)
  have parsed := parsed_simple (v := v) rfl splits named active given
  have simple := simple?_normal (v := v) rfl rfl splits named declared recoverable given
  have fits : q.fitsSimple s := by
    have kept : canonical w = w := by rw [canonical, closed]; rfl
    have shown : w ∈ words v.normal.value.toList := by
      rw [AnnotationValue.words_normal splits]
      exact List.mem_map.mpr ⟨w, member, kept⟩
    rw [fitsSimple, simple]
    simp only [unfiltered, ungapped, Bool.not_false, Bool.and_true]
    rw [Bool.and_eq_true]
    exact ⟨rfl, List.any_eq_true.mpr ⟨w, shown, by rw [closed]; rfl⟩⟩
  rw [classify_ungrouped (hasPattern_of_parsed parsed) ungrouped ungapped, fits, if_pos rfl, simple,
    Option.some_or, Option.some_or, Option.getD_some,
    AnnotationValue.normal_of_splitsWords (v := v) splits]

/-- Quotes, backslashes and wildcards come back as they were typed. -/
theorem classify_simple_quoted :
    ((View.simple ⟨"word", "  a\"b\\c*  [] . .* ", false, .combobox⟩).compile
        plainSettings).pattern =
      some "\"a\\\"b\\\\c.*\" [] \"\\.\" []" ∧
    (ofText "\"a\\\"b\\\\c.*\" [] \"\\.\" []").classify plainSettings =
      .simple ⟨"word", "a\"b\\c* * . *", false, .text⟩ := by
  have compiled : ((View.simple ⟨"word", "  a\"b\\c*  [] . .* ", false, .combobox⟩).compile
      plainSettings).pattern = some "\"a\\\"b\\\\c.*\" [] \"\\.\" []" := by
    decide +kernel
  have constrains : ∃ w ∈ words "  a\"b\\c*  [] . .* ".toList, isOpen w = false :=
    ⟨['.'], by decide +kernel, by decide⟩
  refine ⟨compiled, ?_⟩
  rw [classify_simple (by decide) (by decide +kernel) (by decide +kernel) rfl constrains
    compiled.symm rfl rfl rfl]
  decide +kernel

end Query

end Concordance
