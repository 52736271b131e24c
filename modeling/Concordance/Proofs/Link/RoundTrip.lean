import Concordance.Link.Decode
import Concordance.Proofs.Filter.RoundTrip
import Concordance.Proofs.Link.Interface
import Concordance.Proofs.Link.Parameters
import Concordance.Proofs.Numeral
import Concordance.Proofs.Url.Parts
import Concordance.Proofs.View.Group

/-! The address of an expert search says all of it: reading it gives back the snapshot. -/

namespace Concordance

/-- How many digits the integers of a snapshot may have in an address. -/
def Link.maxDigits : Nat := 4000

def Link.isShort (i : Int) : Bool := (Numeral.decimal i.natAbs).length ≤ Link.maxDigits

/-- Results are grouped by keys that can be written, and no option is an empty text. -/
structure ResultSettings.IsLinkable (r : ResultSettings) : Prop where
  groupBy : ∀ key ∈ r.groupBy, Group.IsPlain key
  contextKeys : ∀ key ∈ r.contextKeys, Group.IsKey key ∧ Group.isContext key
  caseSensitive : r.caseSensitive → r.groupBy ≠ []
  sort : r.sort ≠ some ""
  viewGroup : r.viewGroup ≠ some ""
  grouped : r.viewGroup.isSome → r.isGrouped
  page : 0 ≤ r.page ∧ Link.isShort r.page
  displayMode : r.displayMode ≠ some ""

/-- There is no sample, or one of an integral size and with a seed. -/
inductive GlobalSettings.Samples : GlobalSettings → Prop
  | unsampled {g : GlobalSettings} (mode : g.sampleMode = SampleMode.percentage)
      (size : g.sampleSize = none) (seed : g.sampleSeed = none) : Samples g
  | percentage {g : GlobalSettings} {n k : Int} (mode : g.sampleMode = SampleMode.percentage)
      (size : g.sampleSize = some (.int n)) (seed : g.sampleSeed = some k)
      (range : 0 ≤ n ∧ n ≤ 100) (short : Link.isShort k) : Samples g
  | count {g : GlobalSettings} {n k : Int} (mode : g.sampleMode = SampleMode.count)
      (size : g.sampleSize = some (.int n)) (seed : g.sampleSeed = some k) (range : 0 ≤ n)
      (short : Link.isShort n ∧ Link.isShort k) : Samples g

structure GlobalSettings.IsLinkable (g : GlobalSettings) : Prop where
  pageSize : g.pageSize ∈ pageSizes
  samples : Samples g
  wordsAroundHit : ∀ n ∈ g.wordsAroundHit, 0 ≤ n ∧ n ≤ Site.mostWordsAroundHit

/-- A snapshot of expert editing of which nothing is lost in an address. -/
structure Snapshot.IsLinkable (fields : Keyed Field) (x : Snapshot) : Prop where
  view : ∃ pattern, x.view = some (.expert pattern) ∧ pattern ≠ some "" ∧
    (x.gap.isSome → pattern.isSome)
  viewed : x.viewed = some hits ∨ x.viewed = some docs
  gap : x.gap ≠ some ""
  filters : ∀ e ∈ x.filters.entries, e.2.id = e.1 ∧ Filter.IsWritable fields e.2 ∧
    e.2.normal? = some e.2 ∧ e.2.isActive
  globals : x.globals.IsLinkable
  results : x.results.IsLinkable

namespace Link

def isWritten (i : Int) : Bool := (Numeral.decimal i.natAbs).length ≤ Numeral.maxDigits

theorem isWritten_of_isShort {i : Int} (h : isShort i) : isWritten i :=
  decide_eq_true (Nat.le_trans (of_decide_eq_true h) (by decide))

theorem isWritten_of_small {i : Int} (low : 0 ≤ i) (high : i ≤ 200) : isWritten i := by
  have bound : i.natAbs < 10 ^ 3 := by omega
  have digits := (Nat.length_toDigits_le_iff (b := 10) (by decide) (by decide)).mpr bound
  exact decide_eq_true (Nat.le_trans digits (by decide))

def intText (i : Int) : String := String.ofList (Numeral.signed i)

theorem parameterText?_int {i : Int} (h : isWritten i) :
    parameterText? (.int i) = some (intText i) := by
  have short : (Numeral.decimal i.natAbs).length ≤ Numeral.maxDigits := of_decide_eq_true h
  simp [parameterText?, Parameter.int, numberText?, short, intText]

theorem intText_ne_empty (i : Int) : (intText i).isEmpty = false := by
  rw [intText, Text.isEmpty_ofList, List.isEmpty_eq_false_iff]
  exact Numeral.signed_ne_nil i

end Link

namespace GlobalSettings

variable {g : GlobalSettings}

theorem mk_eq {mode : String} {size : Option Number} (sameMode : g.sampleMode = mode)
    (sameSize : g.sampleSize = size) :
    (⟨g.pageSize, mode, size, g.sampleSeed, g.wordsAroundHit⟩ : GlobalSettings) = g := by
  subst sameMode sameSize
  rfl

theorem sizeIn_self {mode : String} (same : g.sampleMode = mode) :
    g.sizeIn mode = g.sampleSize :=
  if_pos same

theorem sizeIn_of_ne {mode : String} (other : g.sampleMode ≠ mode) : g.sizeIn mode = none :=
  if_neg other

theorem sizeIn_unsampled (unsampled : g.sampleSize = none) (mode : String) :
    g.sizeIn mode = none := by
  rw [sizeIn, unsampled, ite_self]

theorem Samples.validate (h : Samples g) : g.validate = .ok () := by
  cases h with
  | unsampled mode size seed => simp [GlobalSettings.validate, mode, size]
  | percentage mode size seed => simp [GlobalSettings.validate, mode, seed]
  | count mode size seed => simp [GlobalSettings.validate, mode, seed]

theorem Samples.seed (h : Samples g) :
    (if g.sampleSize.isSome then g.sampleSeed else none) = g.sampleSeed := by
  cases h with
  | unsampled mode size seed => simp [seed]
  | percentage mode size seed => simp [size]
  | count mode size seed => simp [size]

end GlobalSettings

namespace Snapshot

variable {x : Snapshot} {s : Settings} {pattern : Option String}

def asked (x : Snapshot) (pattern : Option String) : Parameters where
  filter := Filter.encode? x.filters.values
  first := x.globals.pageSize * x.results.page
  group := x.results.group.param
  number := x.globals.pageSize
  pattern
  gap := x.gap
  sample := x.globals.sizeIn SampleMode.percentage
  sampleCount := x.globals.sizeIn SampleMode.count
  sampleSeed := x.globals.sampleSeed
  sort := x.results.sort
  viewGroup := x.results.viewGroup
  wordsAroundHit := x.globals.wordsAroundHit

theorem IsLinkable.exists_viewed {fields : Keyed Field} (h : x.IsLinkable fields) :
    ∃ v, x.viewed = some v := by
  rcases h.viewed with hits | docs
  · exact ⟨_, hits⟩
  · exact ⟨_, docs⟩

theorem IsLinkable.parameters (h : x.IsLinkable s.corpus.fields)
    (view : x.view = some (.expert pattern)) (written : pattern ≠ some "")
    (gap : x.gap.isSome → pattern.isSome) :
    x.parameters s = .ok (some (x.asked pattern)) := by
  have active : x.activeFilters = x.filters := by
    rw [activeFilters, view]
    exact Keyed.ext_entries (List.filter_eq_self.mpr fun e member => (h.filters e member).2.2.2)
  have gapped : (if pattern.isSome then x.activeGap else none) = x.gap := by
    rw [activeGap, view]
    cases pattern with
    | none => exact (Option.not_isSome_iff_eq_none.mp fun some_gap => nomatch gap some_gap).symm
    | some p => exact Text.nonEmpty?_of_ne h.gap
  have group : (if x.results.isGrouped then x.results.viewGroup else none) =
      x.results.viewGroup := by
    cases found : x.results.viewGroup with
    | none => exact ite_self none
    | some g => exact if_pos (h.results.grouped (by rw [found]; rfl))
  obtain ⟨v, viewed⟩ := h.exists_viewed
  rw [Snapshot.parameters, viewed, view]
  simp only [View.compile, Text.nonEmpty?_of_ne written, active, gapped, group,
    h.globals.samples.validate, asked, Except.map]
  rw [h.globals.samples.seed]

end Snapshot

namespace Link

def IsReadable (p : Option Parameter) : Prop := ∀ q ∈ p, ∃ text, parameterText? q = some text

theorem isReadable_text (text : Option String) : IsReadable (text.map .text) := by
  intro q member
  obtain ⟨t, -, rfl⟩ := Option.map_eq_some_iff.mp member
  exact ⟨t, rfl⟩

theorem isReadable_int {i : Option Int} (short : ∀ n ∈ i, isWritten n) :
    IsReadable (i.map .int) := by
  intro q member
  obtain ⟨n, found, rfl⟩ := Option.map_eq_some_iff.mp member
  exact ⟨_, parameterText?_int (short n found)⟩

theorem exists_parameterText?_float (x : Binary64) :
    ∃ text, parameterText? (.number (.float x)) = some text := by
  rw [parameterText?, numberText?]
  split
  · next integral =>
    cases x with
    | finite negative place => exact ⟨_, rfl⟩
    | infinite _ | nan => cases integral
  · exact ⟨_, rfl⟩

theorem isReadable_number {n : Option Number} (short : ∀ i, n = some (.int i) → isWritten i) :
    IsReadable (n.map .number) := by
  intro q member
  obtain ⟨m, given, rfl⟩ := Option.map_eq_some_iff.mp member
  cases m with
  | int i => exact ⟨_, parameterText?_int (short i given)⟩
  | float x => exact exists_parameterText?_float x

theorem exists_texts?_pairs {P : Parameters} (first : isWritten P.first)
    (number : isWritten P.number) (sample : ∀ i, P.sample = some (.int i) → isWritten i)
    (sampleCount : ∀ i, P.sampleCount = some (.int i) → isWritten i)
    (seed : ∀ i ∈ P.sampleSeed, isWritten i) (words : ∀ i ∈ P.wordsAroundHit, isWritten i) :
    ∃ texts, texts? P.pairs = some texts := by
  have start := isReadable_int (i := some P.first) (by simpa using first)
  have size := isReadable_int (i := some P.number) (by simpa using number)
  apply exists_texts?
  simp only [Parameters.pairs, List.forall_mem_cons]
  exact ⟨isReadable_text _, start, isReadable_text _, size, isReadable_text _, isReadable_text _,
    isReadable_number sample, isReadable_number sampleCount, isReadable_int seed,
    isReadable_text _, isReadable_text _, isReadable_int words, List.forall_mem_nil _⟩

structure Says (params : List (String × String)) (P : Parameters) : Prop where
  filter : Url.value? params "filter" = Text.nonEmpty? P.filter
  first : Url.value? params "first" = some (intText P.first)
  group : Url.value? params "group" = Text.nonEmpty? P.group
  number : Url.value? params "number" = some (intText P.number)
  pattern : Url.value? params "patt" = Text.nonEmpty? P.pattern
  gap : Url.value? params "pattgapdata" = Text.nonEmpty? P.gap
  sample : Url.value? params "sample" =
    Text.nonEmpty? (P.sample.bind fun n => parameterText? (.number n))
  sampleCount : Url.value? params "samplenum" =
    Text.nonEmpty? (P.sampleCount.bind fun n => parameterText? (.number n))
  sampleSeed : Url.value? params "sampleseed" = P.sampleSeed.map intText
  sort : Url.value? params "sort" = Text.nonEmpty? P.sort
  viewGroup : Url.value? params "viewgroup" = Text.nonEmpty? P.viewGroup
  wordsAroundHit : Url.value? params "wordsaroundhit" = P.wordsAroundHit.map intText

theorem nonEmpty?_int {i : Int} (h : isWritten i) :
    Text.nonEmpty? (parameterText? (.int i)) = some (intText i) := by
  rw [parameterText?_int h, Text.nonEmpty?_some, intText_ne_empty]
  rfl

theorem said_text (text : Option String) : (text.map .text).bind parameterText? = text := by
  cases text <;> rfl

theorem said_number (number : Option Number) :
    (number.map .number).bind parameterText? = number.bind fun n => parameterText? (.number n) := by
  cases number <;> rfl

theorem said_int {i : Option Int} (short : ∀ n ∈ i, isWritten n) :
    Text.nonEmpty? ((i.map .int).bind parameterText?) = i.map intText := by
  cases i with
  | none => rfl
  | some n => exact nonEmpty?_int (short n rfl)

theorem says_written {P : Parameters} {texts : List (String × String)}
    (h : texts? P.pairs = some texts) (interface : String) (display : Option String)
    (first : isWritten P.first) (number : isWritten P.number)
    (seed : ∀ n ∈ P.sampleSeed, isWritten n) (words : ∀ n ∈ P.wordsAroundHit, isWritten n) :
    Says (Url.pairs (Url.queryText (written texts interface display))) P := by
  have found := value?_written h interface display
  constructor <;> rw [found]
  case first =>
    simpa [Parameters.pairs] using said_int (i := some P.first) (by simpa using first)
  case number =>
    simpa [Parameters.pairs] using said_int (i := some P.number) (by simpa using number)
  case sampleSeed => simpa [Parameters.pairs] using said_int seed
  case wordsAroundHit => simpa [Parameters.pairs] using said_int words
  case sample | sampleCount => simp [Parameters.pairs, said_number]
  all_goals simp [Parameters.pairs, said_text]

end Link

namespace GlobalSettings

variable {g : GlobalSettings}

theorem IsLinkable.pageSize_bounds (h : g.IsLinkable) : 0 < g.pageSize ∧ g.pageSize ≤ 200 := by
  have known := h.pageSize
  simp only [pageSizes, List.mem_cons, List.not_mem_nil, or_false] at known
  omega

theorem IsLinkable.isWritten_pageSize (h : g.IsLinkable) : Link.isWritten g.pageSize :=
  Link.isWritten_of_small (Int.le_of_lt h.pageSize_bounds.1) h.pageSize_bounds.2

theorem Samples.isWritten_size (h : Samples g) (mode : String) :
    ∀ i, g.sizeIn mode = some (.int i) → Link.isWritten i := by
  intro i given
  rw [sizeIn, Option.ite_none_right_eq_some] at given
  have given := given.2
  cases h with
  | unsampled _ size _ =>
    rw [size] at given
    exact nomatch given
  | percentage _ size _ range _ =>
    rw [size] at given
    cases given
    exact Link.isWritten_of_small range.1 (by omega)
  | count _ size _ _ short =>
    rw [size] at given
    cases given
    exact Link.isWritten_of_isShort short.1

theorem Samples.isWritten_seed (h : Samples g) : ∀ k ∈ g.sampleSeed, Link.isWritten k := by
  intro k member
  cases h with
  | unsampled _ _ seed =>
    rw [seed] at member
    exact nomatch member
  | percentage _ _ seed _ short =>
    rw [seed] at member
    exact Option.some.inj member ▸ Link.isWritten_of_isShort short
  | count _ _ seed _ short =>
    rw [seed] at member
    exact Option.some.inj member ▸ Link.isWritten_of_isShort short.2

theorem IsLinkable.isWritten_words (h : g.IsLinkable) :
    ∀ n ∈ g.wordsAroundHit, Link.isWritten n := by
  intro n member
  have bounds := h.wordsAroundHit n member
  have most : Site.mostWordsAroundHit = 10 := rfl
  exact Link.isWritten_of_small bounds.1 (by omega)

end GlobalSettings

namespace Snapshot

variable {x : Snapshot} {s : Settings} {fields : Keyed Field} {pattern : Option String}

theorem IsLinkable.isWritten_first (h : x.IsLinkable fields) :
    Link.isWritten (x.globals.pageSize * x.results.page) := by
  have bounds := h.globals.pageSize_bounds
  have small : x.globals.pageSize.natAbs < 10 ^ 3 := by omega
  have digits := Numeral.length_decimal_mul small (by decide : 0 < Link.maxDigits)
    (of_decide_eq_true h.results.page.2)
  rw [← Int.natAbs_mul] at digits
  exact decide_eq_true (Nat.le_trans digits (by decide))

theorem IsLinkable.exists_texts? (h : x.IsLinkable fields) (pattern : Option String) :
    ∃ texts, Link.texts? (x.asked pattern).pairs = some texts :=
  have samples := h.globals.samples
  Link.exists_texts?_pairs h.isWritten_first h.globals.isWritten_pageSize (samples.isWritten_size _)
    (samples.isWritten_size _) samples.isWritten_seed h.globals.isWritten_words

end Snapshot

theorem Snapshot.mk_eq {x : Snapshot} {view : Option View} (same : view = x.view) :
    (⟨view, x.filters, x.gap, x.globals, x.viewed, x.results⟩ : Snapshot) = x := by
  subst same
  rfl

theorem Interface.viewed_ofMode (viewed : Option String) (m : Mode) :
    (Interface.ofMode viewed m).viewed = viewed := by
  cases m <;> rfl

theorem Query.getD_expert? {q : Query} {pattern : Option String} (shown : q.pattern = pattern)
    (written : pattern ≠ some "") : q.expert?.getD (.expert none) = .expert pattern := by
  rw [expert?, hasPattern, shown]
  cases pattern with
  | none => rfl
  | some p =>
    rw [Option.any_some, Text.isEmpty_eq_false fun empty => written (congrArg some empty)]
    rfl

namespace Site

variable {site : Site} {x : Snapshot} {pattern : Option String} {params : Params} {depth : Nat}

theorem params_eq (h : x.IsLinkable site.settings.corpus.fields)
    (view : x.view = some (.expert pattern)) (written : pattern ≠ some "")
    (gap : x.gap.isSome → pattern.isSome) {texts : List (String × String)}
    (found : Link.texts? (x.asked pattern).pairs = some texts) :
    site.params x = .ok (Link.written texts (Link.interfaceText (.search .expert))
      x.results.displayMode) := by
  obtain ⟨v, viewed⟩ := h.exists_viewed
  rw [Site.params, h.parameters view written gap]
  simp only [Except.mapError, bind, Except.bind, Option.map_some, Option.getD_some, found, viewed,
    view]
  cases mode : x.results.displayMode with
  | none => rfl
  | some d =>
    have some_char : d.isEmpty = false :=
      Text.isEmpty_eq_false fun empty => h.results.displayMode (by rw [mode, empty])
    simp only [some_char]
    rfl

theorem read?_intText {i : Int} (written : Link.isWritten i) :
    Number.read? (Link.intText i).toList = some (.int i) := by
  rw [Link.intText, String.toList_ofList, Number.read?,
    Numeral.integer?_signed i (of_decide_eq_true written)]

theorem integerOf?_intText {name : String} {i : Int}
    (found : Url.value? params name = some (Link.intText i)) (written : Link.isWritten i) :
    integerOf? params name = some i := by
  rw [integerOf?, found, Option.bind_some, read?_intText written]
  rfl

theorem integerOf?_map {name : String} {i : Option Int}
    (found : Url.value? params name = i.map Link.intText) (written : ∀ n ∈ i, Link.isWritten n) :
    integerOf? params name = i := by
  cases i with
  | none => rw [integerOf?, found]; rfl
  | some n => exact integerOf?_intText found (written n rfl)

theorem globalsOf_says (h : x.IsLinkable site.settings.corpus.fields)
    (sent : Link.Says params (x.asked pattern)) : globalsOf params = x.globals := by
  have samples := h.globals.samples
  have number : integerOf? params "number" = some x.globals.pageSize :=
    integerOf?_intText sent.number h.globals.isWritten_pageSize
  have known : GlobalSettings.pageSizes.contains x.globals.pageSize :=
    List.contains_iff_mem.mpr h.globals.pageSize
  have seed : integerOf? params "sampleseed" = x.globals.sampleSeed :=
    integerOf?_map sent.sampleSeed samples.isWritten_seed
  have words : integerOf? params "wordsaroundhit" = x.globals.wordsAroundHit :=
    integerOf?_map sent.wordsAroundHit h.globals.isWritten_words
  have kept : x.globals.wordsAroundHit.filter (fun n => 0 ≤ n ∧ n ≤ mostWordsAroundHit) =
      x.globals.wordsAroundHit := by
    cases found : x.globals.wordsAroundHit with
    | none => rfl
    | some n =>
      have bounds := h.globals.wordsAroundHit n found
      simp [Option.filter, bounds]
  have count := sent.sampleCount
  have sample := sent.sample
  simp only [Snapshot.asked] at count sample
  rw [globalsOf, seed, words, kept]
  simp only [number, known, if_true]
  cases samples with
  | unsampled mode size _ =>
    rw [GlobalSettings.sizeIn_unsampled size] at count sample
    have noCount : integerOf? params "samplenum" = none := integerOf?_map (i := none) count nofun
    rw [noCount, sample]
    exact GlobalSettings.mk_eq mode size
  | @percentage n _ mode size _ range _ =>
    have written := Link.isWritten_of_small range.1 (by omega)
    rw [GlobalSettings.sizeIn_of_ne (by rw [mode]; decide)] at count
    rw [GlobalSettings.sizeIn_self mode, size, Option.bind_some] at sample
    have noCount : integerOf? params "samplenum" = none := integerOf?_map (i := none) count nofun
    have read : Url.value? params "sample" = some (Link.intText n) :=
      sample.trans (Link.nonEmpty?_int written)
    have fits : (Number.int n).between 0 100 := by
      simpa [Number.between] using range
    rw [noCount, read, Option.bind_some, read?_intText written, Option.filter_some_pos fits]
    exact GlobalSettings.mk_eq mode size
  | @count n _ mode size _ range short =>
    have written := Link.isWritten_of_isShort short.1
    rw [GlobalSettings.sizeIn_self mode, size, Option.bind_some] at count
    have read : integerOf? params "samplenum" = some n :=
      integerOf?_intText (count.trans (Link.nonEmpty?_int written)) written
    have fits : (some n).filter (fun n => decide (0 ≤ n)) = some n :=
      Option.filter_some_pos (decide_eq_true range)
    rw [read, fits]
    exact GlobalSettings.mk_eq mode size

theorem parse_nonEmpty? (text : Option String) :
    GroupSpec.parse (Text.nonEmpty? text) = GroupSpec.parse text := by
  cases text with
  | none => rfl
  | some t =>
    by_cases empty : t = ""
    · subst empty
      rfl
    · rw [Text.nonEmpty?_of_ne fun same => empty (Option.some.inj same)]

theorem decode_nonEmpty? (text : Option String) (fields : Keyed Field) :
    Filter.decode (Text.nonEmpty? text) fields = Filter.decode text fields := by
  cases text with
  | none => rfl
  | some t =>
    by_cases empty : t = ""
    · subst empty
      rfl
    · rw [Text.nonEmpty?_of_ne fun same => empty (Option.some.inj same)]

theorem group_says (h : x.IsLinkable site.settings.corpus.fields)
    (sent : Link.Says params (x.asked pattern)) :
    GroupSpec.parse (Url.value? params "group") = x.results.group := by
  rw [sent.group, parse_nonEmpty?]
  exact GroupSpec.parse_param (GroupSpec.isKey_ofKeys _ h.results.groupBy fun key member =>
    (h.results.contextKeys key member).1)

theorem filters_says (h : x.IsLinkable site.settings.corpus.fields)
    (sent : Link.Says params (x.asked pattern)) :
    Filter.decode (Url.value? params "filter") site.settings.corpus.fields = x.filters := by
  have ids : x.filters.values.map (·.id) = x.filters.keys := by
    rw [Keyed.values, Keyed.keys, List.map_map]
    exact List.map_congr_left fun e member => (h.filters e member).1
  have normal : x.filters.values.filterMap FilterValue.normal? = x.filters.values := by
    apply FilterValue.filterMap_normal?
    intro f member
    obtain ⟨e, e_mem, rfl⟩ := List.mem_map.mp member
    exact (h.filters e e_mem).2.2.1
  have entries : (x.filters.values.map fun g => (g.id, g)) = x.filters.entries := by
    have same (e : String × FilterValue) (member : e ∈ x.filters.entries) : (e.2.id, e.2) = e :=
      congrArg (·, e.2) (h.filters e member).1
    calc (x.filters.values.map fun g => (g.id, g))
      _ = x.filters.entries.map fun e => (e.2.id, e.2) := by rw [Keyed.values, List.map_map]; rfl
      _ = x.filters.entries.map id := List.map_congr_left same
      _ = x.filters.entries := List.map_id _
  rw [sent.filter, decode_nonEmpty?]
  apply Keyed.ext_entries
  refine (Filter.entries_decode_encode? (ids ▸ x.filters.keys_nodup) ?_).trans ?_
  · intro f member
    obtain ⟨e, e_mem, rfl⟩ := List.mem_map.mp member
    exact (h.filters e e_mem).2.1
  · rw [normal, entries]

theorem page_says {n : Int} (page : 0 ≤ n) {size : Int} (some_row : 0 < size) :
    (if 0 < size * n then size * n / size else 0) = n := by
  by_cases first : n = 0
  · subst first
    simp
  · have later : 0 < n := by omega
    rw [if_pos (Int.mul_pos some_row later), Int.mul_ediv_cancel_left n (by omega)]

theorem resultsOf_says (h : x.IsLinkable site.settings.corpus.fields)
    (sent : Link.Says params (x.asked pattern)) :
    resultsOf params x.results.group x.results.displayMode x.globals.pageSize = x.results := by
  have first : integerOf? params "first" = some (x.globals.pageSize * x.results.page) :=
    integerOf?_intText sent.first h.isWritten_first
  have context : ∀ key ∈ x.results.contextKeys, Group.isContext key := fun key member =>
    (h.results.contextKeys key member).2
  have plain : ∀ key ∈ x.results.groupBy, Group.isContext key = false := fun key member =>
    (h.results.groupBy key member).noContext
  have noContextWord : "context" ∉ x.results.groupBy := fun member =>
    (h.results.groupBy "context" member).noContextWord rfl
  have groupBy := GroupSpec.groupBy_ofKeys x.results.caseSensitive plain noContextWord context
  have contextKeys :=
    GroupSpec.contextKeys_ofKeys x.results.caseSensitive plain noContextWord context
  have caseSensitive :=
    GroupSpec.caseSensitive_ofKeys _ plain noContextWord context h.results.caseSensitive
  have sort : Text.nonEmpty? (Url.value? params "sort") = x.results.sort := by
    rw [sent.sort, Text.nonEmpty?_of_ne (Text.nonEmpty?_ne _)]
    exact Text.nonEmpty?_of_ne h.results.sort
  have viewGroup : (if x.results.group.keys.isEmpty then none
      else Text.nonEmpty? (Url.value? params "viewgroup")) = x.results.viewGroup := by
    have keys : x.results.group.keys.isEmpty = !x.results.isGrouped := by
      rw [ResultSettings.group, GroupSpec.ofKeys, ResultSettings.isGrouped]
      cases x.results.groupBy <;> simp
    rw [keys, sent.viewGroup, Text.nonEmpty?_of_ne (Text.nonEmpty?_ne _)]
    cases grouped : x.results.isGrouped with
    | true => exact Text.nonEmpty?_of_ne h.results.viewGroup
    | false =>
      have noGroup : ¬x.results.viewGroup.isSome := fun some_group => by
        simp [h.results.grouped some_group] at grouped
      exact (Option.not_isSome_iff_eq_none.mp noGroup).symm
  rw [resultsOf, first, sort, viewGroup]
  simp only [ResultSettings.group, groupBy, contextKeys, caseSensitive,
    page_says h.results.page.1 h.globals.pageSize_bounds.1]

theorem toSnapshot_decode (h : x.IsLinkable site.settings.corpus.fields)
    (view : x.view = some (.expert pattern)) (written : pattern ≠ some "")
    {path query : List Char} (isPath : Url.IsPath path) (chars : ∀ c ∈ query, Url.isQueryChar c)
    (viewed : (Url.segments path).getLast?.map String.ofList = x.viewed)
    (sent : Link.Says (Url.pairs query) (x.asked pattern))
    (interface : Url.value? (Url.pairs query) "interface" =
      some (Link.interfaceText (.search .expert)))
    (display : Url.value? (Url.pairs query) "groupDisplayMode" = x.results.displayMode) :
    ∃ d, site.decode depth (String.ofList (path ++ '?' :: query)) = .ok d ∧ d.toSnapshot = x := by
  have shallow : ¬IsTooDeep depth (Url.pairs query) :=
    not_isTooDeep_of_interfaceText interface
  have expert : (Url.value? (Url.pairs query) "interface").elim (.ok none)
      (requestedMode depth site.settings) = .ok (some (.search .expert)) := by
    rw [requested_of_not_isTooDeep _ shallow, interface, Option.bind_some,
      requestedMode?_interfaceText]
    rfl
  have known : x.viewed.filter (fun name => name = hits ∨ name = docs) = x.viewed := by
    rcases h.viewed with hits | docs
    · rw [hits]; rfl
    · rw [docs]; rfl
  have patt : Text.nonEmpty? (Url.value? (Url.pairs query) "patt") = pattern := by
    rw [sent.pattern, Text.nonEmpty?_of_ne (Text.nonEmpty?_ne _)]
    exact Text.nonEmpty?_of_ne written
  have gap : Text.nonEmpty? (Url.value? (Url.pairs query) "pattgapdata") = x.gap := by
    rw [sent.gap, Text.nonEmpty?_of_ne (Text.nonEmpty?_ne _)]
    exact Text.nonEmpty?_of_ne h.gap
  have shown := Text.nonEmpty?_of_ne h.results.displayMode
  have results : (if (Interface.ofMode x.viewed (.search .expert)).viewed = some docs then
      if x.viewed = some docs then x.results else .initial
      else if x.viewed = some hits then x.results else .initial) = x.results := by
    rw [Interface.viewed_ofMode]
    rcases h.viewed with viewed | viewed
    · rw [viewed]; rfl
    · rw [viewed]; rfl
  rw [Site.decode]
  simp only [String.toList_ofList, Url.split_path isPath chars, viewed, known, group_says h sent,
    filters_says h sent, globalsOf_says h sent, patt, gap, display, shown, expert, ok_bind,
    resultsOf_says h sent]
  refine ⟨_, rfl, ?_⟩
  simp only [LinkState.toSnapshot, results]
  simp only [Interface.ofMode, LinkState.view, Interface.mode]
  exact Snapshot.mk_eq ((congrArg some (Query.getD_expert? rfl written)).trans view.symm)

theorem getLast?_root {name : String} (named : name ≠ "")
    (plain : ∀ c ∈ name.toList, Url.isUnreserved c) :
    (Url.segments (site.root ++ name.toList)).getLast?.map String.ofList = some name := by
  have free : '/' ∉ name.toList := fun member => absurd (plain '/' member) (by decide)
  rw [root, List.append_assoc, List.singleton_append,
    Url.getLast?_segments _ (by simpa using named) free, Url.decode_of_isUnreserved plain,
    Option.map_some, String.ofList_toList]

theorem isPath_root (base : Url.IsPath site.basePath.toList) {name : List Char}
    (plain : ∀ c ∈ name, Url.isUnreserved c) : Url.IsPath (site.root ++ name) := by
  obtain ⟨rest, split⟩ := Text.isPrefix_trimEnd (· == '/') site.basePath.toList
  have last := Text.last_trimEnd (· == '/') site.basePath.toList
  rw [root, page, String.toList_ofList]
  generalize Text.trimEnd (· == '/') site.basePath.toList = page at split last
  rw [← split] at base
  have pageChars : ∀ c ∈ page, Url.isPathChar c := fun c member =>
    base.chars c (List.mem_append_left rest member)
  constructor
  · intro c member
    simp only [List.mem_append, List.mem_singleton] at member
    rcases member with (inside | rfl) | inside
    · exact pageChars c inside
    · rfl
    · simp [Url.isPathChar, plain c inside]
  · cases page with
    | nil => rfl
    | cons c page => exact base.slash
  · cases page with
    | nil => exact fun slash => absurd (plain '/' (List.mem_of_mem_head? slash)) (by decide)
    | cons c page =>
      have slash : c = '/' := Option.some.inj base.slash
      cases page with
      | nil => exact absurd (last c rfl) (by rw [slash]; decide)
      | cons d page => exact base.noHost

/-- An address that is not truncated says all of a snapshot of expert editing. -/
theorem decode_encode (base : Url.IsPath site.basePath.toList)
    (h : x.IsLinkable site.settings.corpus.fields) :
    ∃ link, site.encode x = .ok link ∧
      (link.truncated = false → ∀ depth,
        ∃ d, site.decode depth link.url = .ok d ∧ d.toSnapshot = x) := by
  obtain ⟨pattern, view, written, gap⟩ := h.view
  obtain ⟨texts, found⟩ := h.exists_texts? pattern
  have params := params_eq h view written gap found
  have said := Link.value?_written found (Link.interfaceText (.search .expert))
    x.results.displayMode
  have sent := Link.says_written found (Link.interfaceText (.search .expert)) x.results.displayMode
    h.isWritten_first h.globals.isWritten_pageSize h.globals.samples.isWritten_seed
    h.globals.isWritten_words
  obtain ⟨name, viewed, named, plain⟩ : ∃ name, x.viewed = some name ∧ name ≠ "" ∧
      ∀ c ∈ name.toList, Url.isUnreserved c := by
    rcases h.viewed with viewed | viewed
    · exact ⟨hits, viewed, by decide, List.all_eq_true.mp (by decide)⟩
    · exact ⟨docs, viewed, by decide, List.all_eq_true.mp (by decide)⟩
  have some_param : (Link.written texts (Link.interfaceText (.search .expert))
      x.results.displayMode).isEmpty = false := by
    simp [Link.written]
  rw [encode, params, viewed, Option.getD_some]
  simp only [bind, Except.bind]
  split
  · refine ⟨_, rfl, fun _ depth => ?_⟩
    rw [Link.join, some_param, if_neg Bool.false_ne_true]
    refine toSnapshot_decode h view written (isPath_root base plain)
      (fun _ => Url.isQueryChar_of_mem _) ?_ sent ?_ ?_
    · rw [getLast?_root named plain, viewed]
    · rw [said, if_pos rfl]
    · rw [said, if_neg (by decide), if_pos rfl]
  · exact ⟨_, rfl, fun truncated => absurd truncated.symm Bool.false_ne_true⟩

def library : Site where
  settings := ⟨.ofDeclarations [] [⟨"genre", "", .select⟩] 0 0, none, [], true, 5⟩
  basePath := "/search"
  maxLength := 4000

def poetry : Snapshot where
  view := some (.expert (some "[]"))
  filters := .index FilterValue.id [⟨"genre", .select, ["poetry", "a \\ b"]⟩]
  gap := some "a\tb"
  globals := ⟨100, SampleMode.count, some (.int 100), some (-7), some 3⟩
  viewed := some docs
  results := ⟨["hit:word"], ["context:word"], true, some "-size", some "é", 2, some "table"⟩

theorem decode_encode_poetry :
    ∃ link, library.encode poetry = .ok link ∧ link.truncated = false ∧
      ∀ depth, ∃ d, library.decode depth link.url = .ok d ∧ d.toSnapshot = poetry := by
  have base : Url.IsPath library.basePath.toList :=
    ⟨List.all_eq_true.mp (by decide), by decide, by decide⟩
  have key : Group.IsKey "hit:word" :=
    ⟨by decide, ⟨by intro _ same; cases same; decide, by intro _ same; cases same; decide⟩,
      by decide⟩
  have context : Group.IsKey "context:word" :=
    ⟨by decide, ⟨by intro _ same; cases same; decide, by intro _ same; cases same; decide⟩,
      by decide⟩
  have results : poetry.results.IsLinkable := by
    refine ⟨?_, ?_, by decide, by decide, by decide, by decide, by decide, by decide⟩
    · rintro _ (_ | ⟨_, ⟨⟩⟩)
      exact ⟨key, by decide, by decide⟩
    · rintro _ (_ | ⟨_, ⟨⟩⟩)
      exact ⟨context, by decide⟩
  have globals : poetry.globals.IsLinkable :=
    ⟨by decide, .count rfl rfl rfl (by decide) (by decide), by intro _ same; cases same; decide⟩
  have filters : ∀ e ∈ poetry.filters.entries, e.2.id = e.1 ∧
      Filter.IsWritable library.settings.corpus.fields e.2 ∧ e.2.normal? = some e.2 ∧
      e.2.isActive := by
    rintro _ (_ | ⟨_, ⟨⟩⟩)
    exact ⟨rfl, ⟨by decide, ⟨⟨"genre", "", .select⟩, rfl, rfl⟩, nofun⟩, by decide, by decide⟩
  obtain ⟨link, encoded, restored⟩ := decode_encode base
    ⟨⟨some "[]", rfl, by decide, fun _ => rfl⟩, .inr rfl, by decide, filters, globals, results⟩
  have whole : (library.encode poetry).toOption.map (·.truncated) = some false := by
    decide +kernel
  rw [encoded] at whole
  have untruncated : link.truncated = false := Option.some.inj whole
  exact ⟨link, encoded, untruncated, restored untruncated⟩

end Site

end Concordance
