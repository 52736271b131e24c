import Concordance.Proofs.Annotation.Edited
import Concordance.Proofs.Pattern.Accepted
import Concordance.Proofs.View.Extended
import Concordance.Proofs.View.Faithful

/-! When the view of a query keeps its tokens apart. A view of values holds one value for each
annotation, and only a value of words says which token each of its words is for. -/

namespace Concordance

open Text (isName isNameChar)
open Pattern (Columns columns Stands Gathered Covered)

def View.showsValues : View → Bool
  | simple _ => true
  | extended .. => true
  | _ => false

/-- The view is compiled to a pattern of as many tokens that asks the same of each. -/
def View.KeepsTokens (s : Settings) (p : Pattern) (view : View) : Prop :=
  ∃ text p', (view.compile s).pattern = some text ∧
    Pattern.parse? (some text) s.primary = some p' ∧
    p'.tokens.map Token.constraints? = p.tokens.map Token.constraints?

/-- A pattern of typed values: its tokens are conjunctions of equalities on declared annotations,
each of them named once in a token, with regular expressions that typed values become. -/
structure Pattern.Typed (corpus : Corpus) (p : Pattern) : Prop where
  conjunctions : ∀ t ∈ p.tokens, t.isConjunction
  distinct : ∀ t ∈ p.tokens, (t.attributes.map (·.name)).Nodup
  declared : ∀ t ∈ p.tokens, ∀ a ∈ t.attributes, corpus.declares a.name
  encoded : ∀ t ∈ p.tokens, ∀ a ∈ t.attributes, (corpus.kindOf a.name).Encodes a.value.toList

def Pattern.asked (p : Pattern) : List (Finset (String × String)) :=
  p.tokens.map fun t => (t.attributes.map fun a => (a.name, a.value)).toFinset

theorem Token.Readable.named {default : String} {t : Token} (h : t.Readable default) :
    (∀ a ∈ t.attributes, isName isNameChar a.name.toList) ∨
      ∀ a ∈ t.attributes, a.name = default := by
  cases condition : t.condition with
  | none => exact .inl (by simp [Token.attributes, condition])
  | some c =>
    have attributes : t.attributes = c.attributes := by simp [Token.attributes, condition]
    rw [attributes]
    rcases h.condition c condition with readable | ⟨v, rfl, -⟩
    · refine .inl fun a member => ?_
      have shape := Condition.isReadable_of_mem readable member
      simp only [Attribute.isReadable, Bool.and_eq_true] at shape
      exact shape.1.1
    · refine .inr fun a member => ?_
      rw [List.mem_singleton.mp member]

namespace Pattern

variable {p : Pattern} {corpus : Corpus}

theorem length_asked (p : Pattern) : p.asked.length = p.tokens.length := List.length_map _

theorem Readable.named_or_single {primary : String} (readable : p.Readable primary)
    {attributes : List Attribute} (distinct : (attributes.map (·.name)).Nodup) {i : Nat}
    (asked : ∀ a ∈ attributes, p.Constrains i a.name) :
    (∀ a ∈ attributes, isName isNameChar a.name.toList) ∨
      ∃ a, attributes = [a] ∧ a.name = primary := by
  cases attributes with
  | nil => exact .inl nofun
  | cons a rest =>
    obtain ⟨t, here, -⟩ := asked a List.mem_cons_self
    have own (d : Attribute) (member : d ∈ a :: rest) : ∃ e ∈ t.attributes, e.name = d.name := by
      obtain ⟨u, here', e, own, same⟩ := asked d member
      obtain rfl : t = u := Option.some.inj (here.symm.trans here')
      exact ⟨e, own, same⟩
    rcases (readable.tokens t (List.mem_of_getElem? here)).named with named | bare
    · refine .inl fun d member => ?_
      obtain ⟨e, own, same⟩ := own d member
      exact same ▸ named e own
    · -- all names are the one that the bare literal stood for, and names are distinct
      have same (d : Attribute) (member : d ∈ a :: rest) : d.name = primary := by
        obtain ⟨e, own, same⟩ := own d member
        exact same.symm.trans (bare e own)
      have single : rest = [] := by
        rw [List.eq_nil_iff_forall_not_mem]
        intro d member
        rw [List.map_cons, List.nodup_cons] at distinct
        apply distinct.1
        rw [same a List.mem_cons_self, ← same d (List.mem_cons_of_mem a member)]
        exact List.mem_map_of_mem member
      exact .inr ⟨a, by rw [single], same a List.mem_cons_self⟩

namespace Typed

variable (h : p.Typed corpus)
include h

theorem stands (i : Nat) : ∀ t ∈ p.tokens[i]?, Stands p.column i t.attributes :=
  stands_column h.conjunctions h.distinct i

theorem constrains_iff (i : Nat) (name : String) :
    p.Constrains i name ↔ ∃ regex, (p.column name)[i]?.join = some regex :=
  constrains_iff_column h.conjunctions h.distinct i name

theorem mem_asked_iff {i : Nat} (bound : i < p.asked.length) (name regex : String) :
    (name, regex) ∈ p.asked[i] ↔ (p.column name)[i]?.join = some regex := by
  have inside : i < p.tokens.length := p.length_asked ▸ bound
  have stands := h.stands i _ (List.getElem?_eq_getElem inside)
  simp only [asked, List.getElem_map]
  exact stands.mem_toFinset name regex

theorem constraints_eq_asked : p.tokens.map Token.constraints? = p.asked.map some := by
  rw [asked, List.map_map]
  exact List.map_congr_left fun t member => Token.constraints?_eq (h.conjunctions t member)

theorem encodes {name regex : String} (cell : some regex ∈ p.column name) :
    (corpus.kindOf name).Encodes regex.toList := by
  obtain ⟨t, member, asks⟩ := List.mem_map.mp cell
  obtain ⟨a, found, rfl⟩ := Option.map_eq_some_iff.mp asks
  have named : a.name = name := by simpa using List.find?_some found
  exact named ▸ h.encoded t member a (List.mem_of_find?_eq_some found)

theorem exists_covered {primary : Option String} {decoded : Keyed AnnotationValue}
    (filled : p.tokens ≠ []) (run : p.values corpus primary = .ok decoded) :
    ∃ cols, Covered corpus p.column p.tokens.length cols ∧
      (∀ name cells, cols.get? name = some cells →
        ∃ v, AnnotationValue.decode name cells (corpus.kindOf name) = .ok v) ∧
      ∀ name v, decoded.get? name = some v ↔ ∃ cells, cols.get? name = some cells ∧
        AnnotationValue.decode name cells (corpus.kindOf name) = .ok v := by
  have places : ∀ j, ∀ t ∈ p.tokens[j]?, Stands p.column (0 + j) t.attributes := by
    intro j t place
    rw [Nat.zero_add]
    exact h.stands j t place
  obtain ⟨cols, gathers, gathered⟩ :=
    gatherTokens_of_stands Gathered.start h.conjunctions places h.declared
  rw [Nat.zero_add] at gathered
  obtain ⟨filled', fills, decodes, lookup⟩ := values_ok primary run gathers
  have settles := gathered.settles fun name => (length_column p name).le
  exact ⟨filled', settles.covered primary (List.length_pos_iff.mpr filled) fills, decodes, lookup⟩

end Typed

structure Shown (corpus : Corpus) (p : Pattern) (cols : Columns)
    (decoded : Keyed AnnotationValue) : Prop where
  typed : p.Typed corpus
  covered : Covered corpus p.column p.tokens.length cols
  value : ∀ name v, decoded.get? name = some v →
    ∃ cells, cols.get? name = some cells ∧ AnnotationValue.Shows (corpus.kindOf name) name cells v
  cells : ∀ name cells, cols.get? name = some cells → ∃ v, decoded.get? name = some v ∧
    AnnotationValue.Shows (corpus.kindOf name) name cells v ∧
      ((corpus.kindOf name).splitsWords ∨ none ∉ cells)

theorem Typed.exists_shown (h : p.Typed corpus) {primary : Option String}
    {decoded : Keyed AnnotationValue} (filled : p.tokens ≠ [])
    (run : p.values corpus primary = .ok decoded) : ∃ cols, Shown corpus p cols decoded := by
  obtain ⟨cols, covered, decodes, lookup⟩ := h.exists_covered filled run
  have shows {name : String} {cells : List (Option String)} {v : AnnotationValue}
      (found : cols.get? name = some cells)
      (decodes : AnnotationValue.decode name cells (corpus.kindOf name) = .ok v) :
      AnnotationValue.Shows (corpus.kindOf name) name cells v := by
    refine AnnotationValue.shows_of_decode ?_ (fun regex member => ?_) decodes
    · rintro rfl
      exact covered.filled name found
    · apply h.encodes
      rw [← mem_settled, ← covered.same name cells found, mem_settled]
      exact member
  refine ⟨cols, h, covered, ?_, ?_⟩
  · intro name v found
    obtain ⟨cells, given, decoded⟩ := (lookup name v).mp found
    exact ⟨cells, given, shows given decoded⟩
  · intro name cells given
    obtain ⟨v, decoded⟩ := decodes name cells given
    exact ⟨v, (lookup name v).mpr ⟨cells, given, decoded⟩, shows given decoded,
      AnnotationValue.full_of_decode decoded⟩

namespace Shown

variable {cols : Columns} {decoded : Keyed AnnotationValue} (h : Shown corpus p cols decoded)
include h

theorem aligned : decoded.Aligned := by
  intro name v found _
  obtain ⟨cells, -, shows⟩ := h.value name v found
  exact shows.id

theorem column_eq_encode {name : String} {cells : List (Option String)}
    (given : cols.get? name = some cells) : ∃ v, decoded.get? name = some v ∧
      decoded.column name = v.encode ∧
      AnnotationValue.Shows (corpus.kindOf name) name cells v := by
  obtain ⟨v, found, shows, -⟩ := h.cells name cells given
  exact ⟨v, found, column_of_active found shows.active, shows⟩

theorem column_of_absent {name : String} (absent : cols.get? name = none) :
    decoded.column name = [] := by
  by_contra given
  obtain ⟨v, found, -, -⟩ := exists_of_column_ne_nil given
  obtain ⟨cells, present, -⟩ := h.value name v found
  rw [absent] at present
  cases present

theorem cells_of_single {name : String} {cells : List (Option String)}
    (single : (corpus.kindOf name).splitsWords = false) (given : cols.get? name = some cells) :
    cells = settled (p.column name) ∧ none ∉ cells := by
  obtain ⟨v, -, -, full⟩ := h.cells name cells given
  have skips := h.covered.skips name cells given
  rw [single] at full skips
  exact ⟨skips.resolve_left Bool.false_ne_true, full.resolve_left Bool.false_ne_true⟩

theorem first_of_column {name regex : String} {i : Nat}
    (single : (corpus.kindOf name).splitsWords = false)
    (asks : (decoded.column name)[i]?.join = some regex) : i = 0 := by
  have member := List.mem_of_getElem? (Option.join_eq_some_iff.mp asks)
  obtain ⟨v, found, -, column⟩ := exists_of_column_ne_nil (List.ne_nil_of_mem member)
  obtain ⟨cells, -, shows⟩ := h.value name v found
  obtain ⟨joined, encoded⟩ := shows.single single
  rw [column, encoded] at asks
  cases i with
  | zero => rfl
  | succ i => exact absurd asks (by simp)

theorem constrains_of_column {name regex : String} {i : Nat}
    (asks : (decoded.column name)[i]?.join = some regex) : p.Constrains i name := by
  rw [h.typed.constrains_iff]
  cases given : cols.get? name with
  | none =>
    rw [h.column_of_absent given] at asks
    cases asks
  | some cells =>
    have place (i : Nat) (regex : String) (cell : cells[i]?.join = some regex) :
        (p.column name)[i]?.join = some regex := by
      rw [← getElem?_settled, ← h.covered.same name cells given, getElem?_settled, cell]
    by_cases back : (corpus.kindOf name).splitsWords ∨ cells.length ≤ 1
    · obtain ⟨v, -, column, shows⟩ := h.column_eq_encode given
      rw [column, shows.back back] at asks
      exact ⟨regex, place i regex asks⟩
    · -- the joined value asks something of the first token only, as the first cell does
      rw [not_or, Bool.not_eq_true] at back
      obtain rfl := h.first_of_column back.1 asks
      obtain ⟨-, full⟩ := h.cells_of_single back.1 given
      cases cells with
      | nil => exact absurd given (h.covered.filled name)
      | cons cell rest =>
        cases cell with
        | none => exact absurd List.mem_cons_self full
        | some first => exact ⟨first, place 0 first rfl⟩

theorem regular_of_column {name regex : String} {i : Nat}
    (asks : (decoded.column name)[i]?.join = some regex) :
    Quoted.isRegular regex.toList ∧ CaseMark.isMarked regex.toList = false := by
  have member := List.mem_of_getElem? (Option.join_eq_some_iff.mp asks)
  obtain ⟨v, found, active, column⟩ := exists_of_column_ne_nil (List.ne_nil_of_mem member)
  obtain ⟨cells, -, shows⟩ := h.value name v found
  rw [column] at member
  exact shows.regular regex member

theorem layout_ne_nil : layout decoded.values ≠ [] := by
  obtain ⟨name, cells, given, -⟩ := h.covered.reaches
  obtain ⟨v, found, shows, -⟩ := h.cells name cells given
  refine Pattern.layout_ne_nil (Keyed.mem_values_iff.mpr ⟨name, found⟩) shows.active ?_
  by_cases back : (corpus.kindOf name).splitsWords ∨ cells.length ≤ 1
  · rw [shows.back back]
    rintro rfl
    exact h.covered.filled name given
  · rw [not_or, Bool.not_eq_true] at back
    obtain ⟨joined, encoded⟩ := shows.single back.1
    rw [encoded]
    exact List.cons_ne_nil _ _

theorem isWritableUnder {primary : String} (readable : p.Readable primary) :
    ∀ t ∈ layout decoded.values, t.isWritableUnder (some primary) := by
  intro t member
  obtain ⟨attributes, laid, rfl⟩ := List.mem_map.mp member
  obtain ⟨i, bound, place⟩ := List.getElem_of_mem laid
  have stands := stands_columns h.aligned i attributes
    (List.getElem?_eq_some_iff.mpr ⟨bound, place⟩)
  have asked : ∀ a ∈ attributes, p.Constrains i a.name :=
    fun a member => h.constrains_of_column ((stands.asks a).mp member).2
  exact isWritableUnder_conjunction (fun a member => ((stands.asks a).mp member).1)
    (fun a member => h.regular_of_column ((stands.asks a).mp member).2)
    (readable.named_or_single stands.distinct asked)

theorem length_cells_le_one {name : String} {cells : List (Option String)}
    (single : (corpus.kindOf name).splitsWords = false) (given : cols.get? name = some cells)
    (once : ∀ i j, p.Constrains i name → p.Constrains j name → i = j) : cells.length ≤ 1 := by
  obtain ⟨whole, full⟩ := h.cells_of_single single given
  have constrained (i : Nat) (inside : i < cells.length) : p.Constrains i name := by
    rw [h.typed.constrains_iff]
    cases cell : cells[i] with
    | none => exact absurd (cell ▸ List.getElem_mem inside) full
    | some regex =>
      refine ⟨regex, ?_⟩
      rw [← getElem?_settled, ← whole, List.getElem?_eq_getElem inside, cell]
      rfl
  by_contra long
  exact absurd (once 0 1 (constrained 0 (by omega)) (constrained 1 (by omega))) Nat.zero_ne_one

theorem column_eq_cells (once : ∀ name, (corpus.kindOf name).splitsWords = false →
      ∀ i j, p.Constrains i name → p.Constrains j name → i = j) (name : String) :
    decoded.column name = (cols.get? name).getD [] := by
  cases given : cols.get? name with
  | none => exact h.column_of_absent given
  | some cells =>
    obtain ⟨v, -, column, shows⟩ := h.column_eq_encode given
    rw [column, Option.getD_some]
    apply shows.back
    cases single : (corpus.kindOf name).splitsWords with
    | true => exact .inl rfl
    | false => exact .inr (h.length_cells_le_one single given (once name single))

theorem first_of_table_eq (same : table decoded = p.asked) {name : String}
    (single : (corpus.kindOf name).splitsWords = false) {i : Nat}
    (constrained : p.Constrains i name) : i = 0 := by
  obtain ⟨regex, cell⟩ := (h.typed.constrains_iff i name).mp constrained
  have inside : i < p.asked.length := by
    obtain ⟨bound, -⟩ := List.getElem?_eq_some_iff.mp (Option.join_eq_some_iff.mp cell)
    rwa [length_column, ← length_asked] at bound
  have member := (h.typed.mem_asked_iff inside name regex).mpr cell
  have kept : (decoded.column name)[i]?.join = some regex := by
    rw [← mem_table_iff h.aligned (same ▸ inside)]
    simpa only [same] using member
  exact h.first_of_column single kept

theorem keeps_iff (within : Option String) :
    (ofValues decoded.values within).tokens.map Token.constraints? =
        p.tokens.map Token.constraints? ↔
      ∀ name, (corpus.kindOf name).splitsWords = false →
        ∀ i j, p.Constrains i name → p.Constrains j name → i = j := by
  rw [constraints?_ofValues, h.typed.constraints_eq_asked,
    List.map_inj_right fun _ _ => Option.some.inj]
  constructor
  · intro same name single i j here there
    exact (h.first_of_table_eq same single here).trans (h.first_of_table_eq same single there).symm
  · intro once
    have columns := h.column_eq_cells once
    have length : (table decoded).length = p.asked.length := by
      rw [length_table, length_columns_of_covered h.covered columns, length_asked]
    refine List.ext_getElem length fun i bound bound' => ?_
    ext ⟨name, regex⟩
    rw [mem_table_iff h.aligned bound, h.typed.mem_asked_iff bound', ← getElem?_settled,
      settled_column h.covered columns, getElem?_settled]

end Shown

end Pattern

namespace Query

variable {q : Query} {s : Settings} {p : Pattern}

theorem readable_of_parsed (parsed : q.parsed s = some p) : p.Readable s.primary := by
  rw [Query.parsed, Pattern.parse?.eq_def] at parsed
  split at parsed
  · cases parsed
  · next text _ =>
    split at parsed
    · next p' accepted =>
      split at parsed
      · cases parsed
      · next filled =>
        cases parsed
        rw [Bool.not_eq_true, List.isEmpty_eq_false_iff] at filled
        exact (Pattern.parse_accepted accepted).2 filled
    · cases parsed

theorem values_eq_some {values : Keyed AnnotationValue} (parsed : q.parsed s = some p)
    (found : q.values s = some values) : p.values s.corpus (some s.primary) = .ok values := by
  simp only [Query.values, parsed] at found
  cases run : p.values s.corpus (some s.primary) with
  | error e =>
    rw [run] at found
    cases found
  | ok v =>
    rw [run] at found
    exact congrArg Except.ok (Option.some.inj found)

theorem compile_simple? (parsed : q.parsed s = some p) {view : View}
    (shown : q.simple? s = some view) : ∃ decoded,
      p.values s.corpus (some s.primary) = .ok decoded ∧ (view.compile s).pattern =
        Pattern.ofValues? decoded.values p.within (some s.primary) := by
  rw [simple?, parsed] at shown
  cases found : q.values s with
  | none => simp [found] at shown
  | some values =>
    simp only [found, Option.ite_none_left_eq_some, Bool.or_eq_true, bne_iff_ne, ne_eq, not_or,
      not_not, Option.map_eq_some_iff] at shown
    obtain ⟨⟨outside, one⟩, v, own, rfl⟩ := shown
    refine ⟨values, values_eq_some parsed found, ?_⟩
    have single : values.values = [v] := by
      obtain ⟨e, only⟩ := List.length_eq_one_iff.mp one
      have member := Keyed.get?_eq_some_iff.mp own
      rw [only, List.mem_singleton] at member
      rw [Keyed.values, only, ← member]
      rfl
    have free : p.within = none := by
      have shape := (readable_of_parsed parsed).within
      cases context : p.within with
      | none => rfl
      | some name =>
        rw [context] at shape outside
        simp [Pattern.Reader.isEmpty_of_isName (by simpa using shape)] at outside
    rw [View.compile, single, free]

theorem exists_extended? (parsed : q.parsed s = some p) {view : View}
    (shown : q.extended? s = some view) : ∃ decoded,
      p.values s.corpus (some s.primary) = .ok decoded ∧
        (∀ name ∈ decoded.keys, name ∈ s.extendedIds) ∧
        view = .extended decoded p.within false := by
  rw [extended?, parsed] at shown
  cases found : q.values s with
  | none => simp [found] at shown
  | some values =>
    simp only [found, Option.ite_none_left_eq_some, Bool.or_eq_true, not_or, Bool.not_eq_true,
      List.any_eq_false, Option.some.injEq] at shown
    obtain ⟨⟨-, allowed⟩, rfl⟩ := shown
    refine ⟨values, values_eq_some parsed found, fun name member => ?_, rfl⟩
    simpa using allowed name member

theorem compile_extended? (parsed : q.parsed s = some p) {view : View}
    (shown : q.extended? s = some view) : ∃ decoded,
      p.values s.corpus (some s.primary) = .ok decoded ∧ (view.compile s).pattern =
        Pattern.ofValues? decoded.values p.within (some s.primary) := by
  obtain ⟨decoded, run, -, rfl⟩ := exists_extended? parsed shown
  exact ⟨decoded, run, rfl⟩

theorem compile_showsValues (parsed : q.parsed s = some p) (ungrouped : q.groups.keys = [])
    (ungapped : q.hasGap = false) (shown : (q.classify s).showsValues) : ∃ decoded,
      p.values s.corpus (some s.primary) = .ok decoded ∧ ((q.classify s).compile s).pattern =
        Pattern.ofValues? decoded.values p.within (some s.primary) := by
  have text : ((q.advanced? s).getD (.expert q.pattern)).showsValues = false := by
    rw [advanced?]
    split <;> rfl
  rw [classify_ungrouped (hasPattern_of_parsed parsed) ungrouped ungapped] at shown ⊢
  cases simple : if q.fitsSimple s then q.simple? s else none with
  | some view =>
    rw [Option.ite_none_right_eq_some] at simple
    exact compile_simple? parsed simple.2
  | none =>
    cases extended : q.extended? s with
    | some view => exact compile_extended? parsed extended
    | none =>
      rw [simple, extended, Option.none_or, Option.none_or, text] at shown
      cases shown

/-- A query for typed values that is shown as values keeps its tokens apart just if no annotation
that holds a single token is constrained in two of them. -/
theorem classify_keepsTokens_iff (parsed : q.parsed s = some p) (typed : p.Typed s.corpus)
    (ungrouped : q.groups.keys = []) (ungapped : q.hasGap = false)
    (shown : (q.classify s).showsValues) :
    (q.classify s).KeepsTokens s p ↔
      ∀ name, (s.corpus.kindOf name).splitsWords = false →
        ∀ i j, p.Constrains i name → p.Constrains j name → i = j := by
  have readable := readable_of_parsed parsed
  obtain ⟨decoded, run, compiled⟩ := compile_showsValues parsed ungrouped ungapped shown
  obtain ⟨cols, h⟩ := typed.exists_shown readable.filled run
  obtain ⟨text, written, read⟩ :=
    Pattern.parse?_of_isWritableUnder h.layout_ne_nil (h.isWritableUnder readable) readable.within
  rw [← h.keeps_iff p.within]
  constructor
  · rintro ⟨text', p', compiled', read', kept⟩
    rw [compiled, written, Option.some.injEq] at compiled'
    subst compiled'
    rw [read, Option.some.injEq] at read'
    rwa [read']
  · intro kept
    exact ⟨text, Pattern.ofValues decoded.values p.within, compiled.trans written, read, kept⟩

def taggedSettings : Settings :=
  ⟨.ofDeclarations [⟨"word", "Word", .text, false, Annotation.sensitive⟩,
    ⟨"pos", "PoS", .pos, false, Annotation.sensitive⟩] [] 0 0, none, [], true, 5⟩

def taggedPhrase : Pattern :=
  ⟨[.ofCondition (some (.binary "&" (.attribute ⟨"pos", "=", "DET"⟩)
      (.attribute ⟨"word", "=", "the"⟩))), .any,
    .ofCondition (some (.attribute ⟨"word", "=", "cat.*"⟩))], none⟩

theorem classify_keepsTokens_taggedPhrase :
    (ofText "[pos=\"DET\" & word=\"the\"] [] \"cat.*\"").parsed taggedSettings = some taggedPhrase ∧
      taggedPhrase.Typed taggedSettings.corpus ∧
      ((ofText "[pos=\"DET\" & word=\"the\"] [] \"cat.*\"").classify taggedSettings).showsValues ∧
      ((ofText "[pos=\"DET\" & word=\"the\"] [] \"cat.*\"").classify taggedSettings).KeepsTokens
        taggedSettings taggedPhrase := by
  have parsed : (ofText "[pos=\"DET\" & word=\"the\"] [] \"cat.*\"").parsed taggedSettings =
      some taggedPhrase := by
    decide +kernel
  have typed : taggedPhrase.Typed taggedSettings.corpus :=
    ⟨by decide, by decide, by decide +kernel, by decide +kernel⟩
  have shown : ((ofText "[pos=\"DET\" & word=\"the\"] [] \"cat.*\"").classify
      taggedSettings).showsValues := by
    decide +kernel
  refine ⟨parsed, typed, shown, (classify_keepsTokens_iff parsed typed rfl rfl shown).mpr ?_⟩
  have tags : ∀ i, taggedPhrase.Constrains i "pos" → i = 0 := by
    rintro i ⟨t, place, a, asked, tag⟩
    match i with
    | 0 => rfl
    | 1 =>
      cases place
      exact absurd asked List.not_mem_nil
    | 2 =>
      cases place
      rw [List.mem_singleton.mp asked] at tag
      exact absurd tag (by decide)
    | i + 3 => cases place
  intro name single i j here there
  by_cases tag : name = "pos"
  · subst tag
    rw [tags i here, tags j there]
  · have splits : (taggedSettings.corpus.kindOf name).splitsWords := by
      have kind : taggedSettings.corpus.kindOf name = .text := by
        by_cases word : name = "word"
        · subst word
          decide +kernel
        · simp [taggedSettings, Corpus.kindOf, Corpus.ofDeclarations, Keyed.index, Keyed.ofList,
            Keyed.insert, Keyed.put, Keyed.empty, Keyed.get?, Ne.symm tag, Ne.symm word]
      rw [kind]
      rfl
    rw [splits] at single
    cases single

/-- The tags of two tokens are joined in one value, which is read as the tag of a single token. -/
def taggedPair : Pattern :=
  ⟨[.ofCondition (some (.attribute ⟨"pos", "=", "A"⟩)),
    .ofCondition (some (.attribute ⟨"pos", "=", "B"⟩))], none⟩

theorem classify_joins_taggedPair :
    (ofText "[pos=\"A\"][pos=\"B\"]").parsed taggedSettings = some taggedPair ∧
      taggedPair.Typed taggedSettings.corpus ∧
      ((ofText "[pos=\"A\"][pos=\"B\"]").classify taggedSettings).showsValues ∧
      ¬((ofText "[pos=\"A\"][pos=\"B\"]").classify taggedSettings).KeepsTokens taggedSettings
        taggedPair := by
  have compiled : (((ofText "[pos=\"A\"][pos=\"B\"]").classify taggedSettings).compile
      taggedSettings).pattern = some "[pos=\"A B\"]" := by
    decide +kernel
  have read : Pattern.parse? (some "[pos=\"A B\"]") taggedSettings.primary =
      some (.single "pos" "A B") := by
    decide +kernel
  refine ⟨by decide +kernel, ⟨by decide, by decide, by decide +kernel, by decide +kernel⟩,
    by decide +kernel, ?_⟩
  rintro ⟨text, p', compiled', read', kept⟩
  rw [compiled, Option.some.injEq] at compiled'
  subst compiled'
  rw [read, Option.some.injEq] at read'
  subst read'
  exact absurd (congrArg List.length kept) (by decide)

end Query

end Concordance
