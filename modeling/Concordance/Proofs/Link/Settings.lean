import Concordance.Proofs.Link.Number
import Concordance.Proofs.Link.Reread

/-! The settings of an address: those that were read from one are read as the same again once they
are written. -/

namespace Concordance

open Site (Params)

namespace Snapshot

variable {s : Settings} {x : Snapshot} {v : View} {P : Parameters}

def request (s : Settings) (x : Snapshot) (v : View) : Parameters where
  filter := Filter.encode? x.activeFilters.values
  first := x.globals.pageSize * x.results.page
  group := x.results.group.param
  number := x.globals.pageSize
  pattern := (v.compile s).pattern
  gap := if (v.compile s).pattern.isSome then x.activeGap else none
  sample := x.globals.sizeIn SampleMode.percentage
  sampleCount := x.globals.sizeIn SampleMode.count
  sampleSeed := if x.globals.sampleSize.isSome then x.globals.sampleSeed else none
  sort := x.results.sort
  viewGroup := if x.results.isGrouped then x.results.viewGroup else none
  wordsAroundHit := x.globals.wordsAroundHit

theorem parameters_eq (viewed : x.viewed.isSome) (view : x.view = some v) :
    x.parameters s = x.globals.validate.map fun _ => some (x.request s v) := by
  obtain ⟨name, named⟩ := Option.isSome_iff_exists.mp viewed
  rw [parameters, named, view]
  rfl

theorem parameters_of_valid (viewed : x.viewed.isSome) (view : x.view = some v)
    (valid : x.globals.validate = .ok ()) : x.parameters s = .ok (some (x.request s v)) := by
  rw [parameters_eq viewed view, valid]
  rfl

end Snapshot

namespace Link

structure IsWritten (P : Parameters) : Prop where
  first : isWritten P.first
  number : isWritten P.number
  sampleCount : ∀ i, P.sampleCount = some (.int i) → isWritten i
  sampleSeed : ∀ i ∈ P.sampleSeed, isWritten i
  wordsAroundHit : ∀ i ∈ P.wordsAroundHit, isWritten i

theorem isWritten_of_texts? {P : Parameters} {texts : List (String × String)}
    (h : texts? P.pairs = some texts) : IsWritten P := by
  have readable := isReadable_of_texts? h
  simp only [Parameters.pairs, List.forall_mem_cons] at readable
  obtain ⟨-, first, -, number, -, -, -, count, seed, -, -, words, -⟩ := readable
  refine ⟨isWritten_of_isReadable (i := some P.first) first _ rfl,
    isWritten_of_isReadable (i := some P.number) number _ rfl, ?_, isWritten_of_isReadable seed,
    isWritten_of_isReadable words⟩
  intro i given
  rw [given] at count
  exact isWritten_of_isReadable (i := some i) count i rfl

end Link

namespace GlobalSettings

variable {g : GlobalSettings}

structure IsRead (g : GlobalSettings) : Prop where
  pageSize : g.pageSize ∈ pageSizes
  sample : g.sampleMode = SampleMode.percentage ∧ (∀ n ∈ g.sampleSize, n.between 0 100) ∨
    g.sampleMode = SampleMode.count ∧ ∃ i, g.sampleSize = some (.int i) ∧ 0 ≤ i
  wordsAroundHit : ∀ n ∈ g.wordsAroundHit, 0 ≤ n ∧ n ≤ Site.mostWordsAroundHit

/-- Settings as they come back: integral sizes as integers, and a seed only for a sample. -/
def linked (g : GlobalSettings) : GlobalSettings :=
  { g with
    sampleSize := g.sampleSize.map Number.linked
    sampleSeed := if g.sampleSize.isSome then g.sampleSeed else none }

theorem isRead_initial : initial.IsRead := ⟨by decide, .inl ⟨rfl, nofun⟩, nofun⟩

theorem IsRead.pageSize_pos (read : g.IsRead) : 0 < g.pageSize := by
  have known := read.pageSize
  simp only [pageSizes, List.mem_cons, List.not_mem_nil, or_false] at known
  omega

theorem isRead_globalsOf (params : Params) : (Site.globalsOf params).IsRead := by
  constructor
  · rw [Site.globalsOf]
    dsimp only
    split
    · split
      · next known => exact List.contains_iff_mem.mp known
      · decide
    · decide
  · rw [Site.globalsOf]
    dsimp only
    cases count : (Site.integerOf? params "samplenum").filter fun n => 0 ≤ n with
    | none =>
      refine .inl ⟨rfl, fun n member => ?_⟩
      exact (Option.filter_eq_some_iff.mp member).2
    | some i =>
      exact .inr ⟨rfl, i, rfl, of_decide_eq_true (Option.filter_eq_some_iff.mp count).2⟩
  · intro n member
    exact of_decide_eq_true (Option.filter_eq_some_iff.mp member).2

theorem validate_linked (valid : g.validate = .ok ()) : g.linked.validate = .ok () := by
  rw [validate] at valid ⊢
  cases size : g.sampleSize with
  | none => simpa [linked, size] using valid
  | some n => simpa [linked, size] using valid

theorem sizeIn_linked (g : GlobalSettings) (mode : String) :
    g.linked.sizeIn mode = (g.sizeIn mode).map Number.linked := by
  rw [sizeIn, sizeIn]
  by_cases same : g.sampleMode = mode
  · rw [if_pos same, if_pos (show g.linked.sampleMode = mode from same)]
    rfl
  · rw [if_neg same, if_neg (show g.linked.sampleMode ≠ mode from same)]
    rfl

end GlobalSettings

namespace Site

variable {params : Params} {x : Snapshot} {s : Settings} {v : View}

theorem globalsOf_request (read : x.globals.IsRead) (said : Link.Says params (x.request s v))
    (written : Link.IsWritten (x.request s v)) : globalsOf params = x.globals.linked := by
  have number : integerOf? params "number" = some x.globals.pageSize :=
    integerOf?_intText said.number written.number
  have known : GlobalSettings.pageSizes.contains x.globals.pageSize :=
    List.contains_iff_mem.mpr read.pageSize
  have seed := integerOf?_map said.sampleSeed written.sampleSeed
  have words : integerOf? params "wordsaroundhit" = x.globals.wordsAroundHit :=
    integerOf?_map said.wordsAroundHit written.wordsAroundHit
  have kept : x.globals.wordsAroundHit.filter (fun n => 0 ≤ n ∧ n ≤ mostWordsAroundHit) =
      x.globals.wordsAroundHit := by
    cases found : x.globals.wordsAroundHit with
    | none => rfl
    | some n =>
      have bounds := read.wordsAroundHit n found
      simp [Option.filter, bounds]
  have count := said.sampleCount
  have sample := said.sample
  have short := written.sampleCount
  simp only [Snapshot.request] at count sample seed short
  rw [globalsOf, seed, words, kept]
  simp only [number, known, if_true]
  rcases read.sample with ⟨mode, range⟩ | ⟨mode, i, size, positive⟩
  · rw [GlobalSettings.sizeIn_of_ne (by rw [mode]; decide)] at count
    rw [GlobalSettings.sizeIn_self mode] at sample
    have noCount : integerOf? params "samplenum" = none :=
      integerOf?_map (i := none) count fun _ given => absurd given (Option.not_mem_none _)
    have read : ((Url.value? params "sample").bind fun s => Number.read? s.toList).filter
        (·.between 0 100) = x.globals.sampleSize.map Number.linked := by
      rw [sample, Link.nonEmpty?_number]
      cases size : x.globals.sampleSize with
      | none => rfl
      | some n =>
        obtain ⟨text, written, back⟩ := Number.read?_text (range n size)
        rw [Option.bind_some, written, Option.map_some, Option.bind_some, String.toList_ofList,
          back, Option.map_some, Option.filter_some_pos (Number.between_linked (range n size))]
    rw [noCount, read]
    exact congrArg (GlobalSettings.mk _ · _ _ _) mode.symm
  · rw [GlobalSettings.sizeIn_self mode, size] at count short
    have fits : (some i).filter (fun n => decide (0 ≤ n)) = some i :=
      Option.filter_some_pos (decide_eq_true positive)
    have shown : integerOf? params "samplenum" = some i :=
      integerOf?_intText (count.trans (Link.nonEmpty?_int (short i rfl))) (short i rfl)
    rw [shown, fits, GlobalSettings.linked, mode, size]
    rfl

end Site

namespace Group

variable {key : String}

end Group

theorem Site.page_resultsOf_nonneg (params : Params) (groups : GroupSpec)
    (displayMode : Option String) {pageSize : Int} (positive : 0 < pageSize) :
    0 ≤ (resultsOf params groups displayMode pageSize).page := by
  rw [resultsOf]
  dsimp only
  split
  · split
    · next later => exact Int.ediv_nonneg (Int.le_of_lt later) (Int.le_of_lt positive)
    · exact Int.le_refl 0
  · exact Int.le_refl 0

namespace ResultSettings

variable {r : ResultSettings}

structure IsRead (r : ResultSettings) : Prop where
  keys : ∀ key ∈ r.group.keys, Group.IsKey key
  groupBy : ∀ key ∈ r.groupBy, Group.isContext key = false
  contextKeys : ∀ key ∈ r.contextKeys, Group.isContext key
  caseSensitive : r.caseSensitive → r.groupBy ≠ []
  sort : r.sort ≠ some ""
  viewGroup : r.viewGroup ≠ some ""
  page : 0 ≤ r.page
  displayMode : r.displayMode ≠ some ""

def linked (r : ResultSettings) : ResultSettings :=
  { r with
    groupBy := r.group.groupBy
    contextKeys := r.group.contextKeys
    caseSensitive := r.group.caseSensitive
    viewGroup := if r.isGrouped then r.viewGroup else none }

theorem isRead_initial : initial.IsRead :=
  ⟨nofun, nofun, nofun, nofun, nofun, nofun, by decide, nofun⟩

theorem isGrouped_eq (r : ResultSettings) : r.isGrouped = !r.group.keys.isEmpty := by
  rw [group, GroupSpec.ofKeys, isGrouped]
  cases r.groupBy <;> simp

theorem IsRead.linked_eq (read : r.IsRead) (noContextWord : "context" ∉ r.groupBy) :
    r.linked = { r with viewGroup := if r.isGrouped then r.viewGroup else none } := by
  have groupBy := GroupSpec.groupBy_ofKeys r.caseSensitive read.groupBy noContextWord
    read.contextKeys
  have contextKeys := GroupSpec.contextKeys_ofKeys r.caseSensitive read.groupBy noContextWord
    read.contextKeys
  have caseSensitive := GroupSpec.caseSensitive_ofKeys r.caseSensitive read.groupBy noContextWord
    read.contextKeys read.caseSensitive
  simp only [linked, group, groupBy, contextKeys, caseSensitive]

end ResultSettings

namespace Site

variable {params : Params} {x : Snapshot} {s : Settings} {v : View}

theorem parse_request (read : x.results.IsRead) (said : Link.Says params (x.request s v)) :
    GroupSpec.parse (Url.value? params "group") = x.results.group := by
  rw [said.group, parse_nonEmpty?]
  exact GroupSpec.parse_param read.keys

theorem resultsOf_request (positive : 0 < x.globals.pageSize) (read : x.results.IsRead)
    (said : Link.Says params (x.request s v)) (written : Link.IsWritten (x.request s v)) :
    resultsOf params x.results.group x.results.displayMode x.globals.pageSize =
      x.results.linked := by
  have first : integerOf? params "first" = some (x.globals.pageSize * x.results.page) :=
    integerOf?_intText said.first written.first
  have sort : Text.nonEmpty? (Url.value? params "sort") = x.results.sort := by
    rw [said.sort, Text.nonEmpty?_of_ne (Text.nonEmpty?_ne _)]
    exact Text.nonEmpty?_of_ne read.sort
  have viewGroup : (if x.results.group.keys.isEmpty then none
      else Text.nonEmpty? (Url.value? params "viewgroup")) =
        if x.results.isGrouped then x.results.viewGroup else none := by
    rw [said.viewGroup, Text.nonEmpty?_of_ne (Text.nonEmpty?_ne _), x.results.isGrouped_eq]
    simp only [Snapshot.request, x.results.isGrouped_eq]
    cases x.results.group.keys.isEmpty with
    | true => rfl
    | false => exact Text.nonEmpty?_of_ne read.viewGroup
  rw [resultsOf, first, sort, viewGroup]
  have page := page_says read.page positive
  simp only [page]
  rfl

end Site

namespace Snapshot

def reread (s : Settings) (x : Snapshot) (v : View) : Query where
  pattern := (x.request s v).pattern
  filters := Filter.decode (x.request s v).filter s.corpus.fields
  groups := x.results.group
  gap := (x.request s v).gap
  viewed := x.viewed
  displayMode := x.results.displayMode

structure IsRead (s : Settings) (x : Snapshot) (v : View) : Prop where
  viewed : x.viewed = some hits ∨ x.viewed = some docs
  view : x.view = some v
  globals : x.globals.IsRead
  results : x.results.IsRead
  enabled : v.mode = .search .advanced → s.advancedEnabled

def linked (s : Settings) (x : Snapshot) (v : View) : Snapshot where
  view := some ((x.reread s v).shown s v.mode)
  filters := (x.reread s v).filters
  gap := (x.reread s v).gap
  globals := x.globals.linked
  viewed := x.viewed
  results := x.results.linked

variable {s : Settings} {x : Snapshot} {v : View}

theorem IsRead.isResultView (read : x.IsRead s v) : Site.IsResultView x.viewed := .inr read.viewed

theorem IsRead.isSome_viewed (read : x.IsRead s v) : x.viewed.isSome := by
  rcases read.viewed with viewed | viewed <;> rw [viewed] <;> rfl

theorem isFilled_request (s : Settings) (x : Snapshot) (v : View) : (x.request s v).IsFilled where
  filter := Filter.encode?_ne_empty _
  group := GroupSpec.param_ne_empty _
  pattern := v.pattern_ne_empty s
  gap := by
    rw [request]
    split
    · exact x.activeGap_ne_empty
    · nofun

end Snapshot

namespace Site

variable {site : Site} {params : Params} {x : Snapshot} {v : View} {ps : List (String × String)}
  {e : Link} {s : Settings}

theorem queryOf_request (read : x.IsRead s v) (said : Link.Says params (x.request s v))
    (display : Url.value? params "groupDisplayMode" = x.results.displayMode) :
    queryOf s x.viewed params = x.reread s v := by
  have filled := x.isFilled_request s v
  have pattern : Text.nonEmpty? (Url.value? params "patt") = (x.request s v).pattern := by
    rw [said.pattern, Text.nonEmpty?_of_ne (Text.nonEmpty?_ne _),
      Text.nonEmpty?_of_ne filled.pattern]
  have gap : Text.nonEmpty? (Url.value? params "pattgapdata") = (x.request s v).gap := by
    rw [said.gap, Text.nonEmpty?_of_ne (Text.nonEmpty?_ne _), Text.nonEmpty?_of_ne filled.gap]
  have shown : Text.nonEmpty? (Url.value? params "groupDisplayMode") = x.results.displayMode := by
    rw [display, Text.nonEmpty?_of_ne read.results.displayMode]
  rw [queryOf, pattern, gap, shown, parse_request read.results said, said.filter, decode_nonEmpty?]
  rfl

theorem snapshotOf_request (read : x.IsRead s v) (said : Link.Says params (x.request s v))
    (written : Link.IsWritten (x.request s v))
    (interface : Url.value? params "interface" = some (Link.interfaceText v.mode))
    (display : Url.value? params "groupDisplayMode" = x.results.displayMode) :
    snapshotOf s x.viewed params = x.linked s v := by
  have query := queryOf_request read said display
  have globals := globalsOf_request read.globals said written
  have results := resultsOf_request read.globals.pageSize_pos read.results said written
  have mode : modeOf s x.viewed params = v.mode := by
    have enabled : ¬(v.mode = .search .advanced ∧ !s.advancedEnabled) := by
      intro ⟨advanced, disabled⟩
      rw [read.enabled advanced] at disabled
      cases disabled
    rw [modeOf, interface, Option.bind_some, requestedMode?_interfaceText, if_neg enabled,
      Option.getD_some]
  rw [snapshotOf, query, mode, globals, if_pos read.isSome_viewed]
  exact congrArg (Snapshot.mk _ _ _ _ _) results

theorem exists_texts_of_links (h : site.Links x ps e) (read : x.IsRead site.settings v) :
    x.globals.validate = .ok () ∧ ∃ texts,
      Link.texts? (x.request site.settings v).pairs = some texts ∧
      ps = Link.written texts (Link.interfaceText v.mode) x.results.displayMode := by
  obtain ⟨search, asked⟩ := exists_parameters h.params
  have request := Snapshot.parameters_eq (s := site.settings) read.isSome_viewed read.view
  cases valid : x.globals.validate with
  | error u =>
    rw [request, valid] at asked
    cases asked
  | ok _ =>
    rw [valid] at request
    obtain ⟨w, texts, view, found, params⟩ := params_of_parameters request h.params
    rw [read.view, Option.some.injEq] at view
    subst view
    rw [Text.nonEmpty?_of_ne read.results.displayMode] at params
    exact ⟨rfl, texts, found, params⟩

theorem toSnapshot_links (base : Url.IsPath site.basePath.toList) (h : site.Links x ps e)
    (whole : ¬e.truncated) (read : x.IsRead site.settings v) (depth : Nat) :
    ∃ d, site.decode depth e.url = .ok d ∧ d.toSnapshot = x.linked site.settings v := by
  obtain ⟨-, texts, found, params⟩ := exists_texts_of_links h read
  have kept := h.kept
  rw [if_neg whole, params] at kept
  have filled : e.params ≠ [] := by
    rw [kept, Link.written]
    exact List.append_ne_nil_of_left_ne_nil
      (List.append_ne_nil_of_right_ne_nil _ (List.cons_ne_nil _ _)) _
  have page : x.viewed = none → site.IsPage := by
    intro closed
    have viewed := read.isSome_viewed
    rw [closed] at viewed
    cases viewed
  have texts_of (name : String) := Link.value?_written found (Link.interfaceText v.mode)
    x.results.displayMode name
  simp only [Url.pairs_queryText] at texts_of
  have interface : Url.value? (Link.written texts (Link.interfaceText v.mode) x.results.displayMode)
      "interface" = some (Link.interfaceText v.mode) := by
    rw [texts_of, if_pos rfl]
  have said : paramsOf e.url = _ :=
    (paramsOf_url base h read.isResultView filled).trans kept
  obtain ⟨d, decoded, shown⟩ :=
    exists_decode site depth (said ▸ not_isTooDeep_of_interfaceText interface)
  refine ⟨d, decoded, ?_⟩
  rw [shown, viewedOf_url base page h read.isResultView filled, said]
  apply snapshotOf_request read (Link.says_of_texts? found _ _) (Link.isWritten_of_texts? found)
    interface
  rw [texts_of, if_neg (by decide), if_pos rfl]

theorem exists_encode {search : Option Parameters} {texts : List (String × String)}
    (asked : x.parameters site.settings = .ok search)
    (found : Link.texts? ((search.map Parameters.pairs).getD []) = some texts) :
    ∃ e, site.encode x = .ok e := by
  obtain ⟨ps, params⟩ : ∃ ps, site.params x = .ok ps := by
    rw [Site.params, asked]
    simp only [Except.mapError, bind, Except.bind, found]
    exact ⟨_, rfl⟩
  rw [encode, params]
  simp only [bind, Except.bind]
  split <;> exact ⟨_, rfl⟩

theorem exists_encode_initial (site : Site) (viewed : x.viewed.isSome) (view : x.view = some v)
    (globals : x.globals = .initial) (page : x.results.page = 0) : ∃ e, site.encode x = .ok e := by
  have asked : x.parameters site.settings = .ok (some (x.request site.settings v)) :=
    Snapshot.parameters_of_valid viewed view (by rw [globals]; rfl)
  obtain ⟨texts, found⟩ : ∃ texts,
      Link.texts? (x.request site.settings v).pairs = some texts := by
    apply Link.exists_texts?_pairs <;> simp only [Snapshot.request, globals, page]
    case first => exact Link.isWritten_of_small (Int.le_refl 0) (by decide)
    case number => exact Link.isWritten_of_small (by decide) (by decide)
    all_goals exact nofun
  exact exists_encode asked found

end Site

end Concordance
