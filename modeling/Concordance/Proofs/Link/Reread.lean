import Concordance.Proofs.Link.Distinct

/-! What an address is read as: a snapshot that depends on its result view and its parameters. -/

namespace Concordance

open Site (Params)

namespace Query

/-- The view of a form that shows the query, or that form without it. -/
def shown (s : Settings) (q : Query) : Mode → View
  | .search .simple => (q.simple? s).getD (.blank s.primary)
  | .search .extended => (q.extended? s).getD (.extended ∅ none false)
  | .search .advanced => (q.advanced? s).getD (.advanced none)
  | .search .expert => q.expert?.getD (.expert none)
  | .explore .frequency => (q.frequency? s).getD (.frequency s.primary)
  | .explore .ngram => (q.ngram? s).getD (Site.blankNgram s)
  | .explore .corpora => q.corpora?.getD (.corpora none none)

end Query

namespace Site

variable {site : Site} {s : Settings} {viewed : Option String} {params : Params} {depth : Nat}
  {url : String} {d : LinkState}

def queryOf (s : Settings) (viewed : Option String) (params : Params) : Query where
  pattern := Text.nonEmpty? (Url.value? params "patt")
  filters := Filter.decode (Url.value? params "filter") s.corpus.fields
  groups := GroupSpec.parse (Url.value? params "group")
  gap := Text.nonEmpty? (Url.value? params "pattgapdata")
  viewed
  displayMode := Text.nonEmpty? (Url.value? params "groupDisplayMode")

def modeOf (s : Settings) (viewed : Option String) (params : Params) : Mode :=
  ((Url.value? params "interface").bind (requestedMode? s)).getD
    ((queryOf s viewed params).classify s).mode

def stateOf (s : Settings) (viewed : Option String) (params : Params) : LinkState :=
  let q := queryOf s viewed params
  let globals := globalsOf params
  let results := resultsOf params q.groups q.displayMode globals.pageSize
  { interface := .ofMode viewed (modeOf s viewed params)
    simple := q.shown s (.search .simple)
    extended := q.shown s (.search .extended)
    advanced := q.shown s (.search .advanced)
    expert := q.shown s (.search .expert)
    frequency := q.shown s (.explore .frequency)
    ngram := q.shown s (.explore .ngram)
    corpora := q.shown s (.explore .corpora)
    filters := q.filters
    gap := q.gap
    globals
    hits := if viewed = some Concordance.hits then results else .initial
    docs := if viewed = some Concordance.docs then results else .initial }

def snapshotOf (s : Settings) (viewed : Option String) (params : Params) : Snapshot :=
  let q := queryOf s viewed params
  { view := some (q.shown s (modeOf s viewed params))
    filters := q.filters
    gap := q.gap
    globals := globalsOf params
    viewed
    results := if viewed.isSome then
        resultsOf params q.groups q.displayMode (globalsOf params).pageSize
      else .initial }

def viewedOf (url : String) : Option String :=
  ((Url.segments (Url.split url.toList).path).getLast?.map String.ofList).filter fun name =>
    name = hits ∨ name = docs

def paramsOf (url : String) : Params := Url.pairs (Url.split url.toList).query

theorem decode_of_isTooDeep (site : Site) (deep : IsTooDeep depth (paramsOf url)) :
    site.decode depth url = .error .tooDeep := by
  have requested := requested_of_isTooDeep site.settings deep
  rw [paramsOf] at requested
  rw [decode]
  dsimp only
  rw [requested]
  rfl

theorem decode_eq (site : Site) (shallow : ¬IsTooDeep depth (paramsOf url)) :
    site.decode depth url = .ok (stateOf site.settings (viewedOf url) (paramsOf url)) := by
  have requested := requested_of_not_isTooDeep site.settings shallow
  rw [paramsOf] at requested
  simp only [decode, requested, ok_bind, stateOf, queryOf, modeOf, viewedOf, paramsOf, Query.shown]
  cases (Url.value? (Url.pairs (Url.split url.toList).query) "interface").bind
    (requestedMode? site.settings) <;> rfl

theorem decode_eq_ok_iff : site.decode depth url = .ok d ↔ ¬IsTooDeep depth (paramsOf url) ∧
    d = stateOf site.settings (viewedOf url) (paramsOf url) := by
  by_cases deep : IsTooDeep depth (paramsOf url)
  · rw [decode_of_isTooDeep site deep]
    exact iff_of_false nofun fun read => read.1 deep
  · rw [decode_eq site deep, Except.ok.injEq]
    exact ⟨fun same => ⟨deep, same.symm⟩, fun read => read.2.symm⟩

def IsResultView (viewed : Option String) : Prop :=
  viewed = none ∨ viewed = some hits ∨ viewed = some docs

theorem isResultView_viewedOf (url : String) : IsResultView (viewedOf url) := by
  cases known : viewedOf url with
  | none => exact .inl rfl
  | some name =>
    obtain ⟨-, named⟩ := Option.filter_eq_some_iff.mp known
    exact .inr ((of_decide_eq_true named).imp (congrArg some) (congrArg some))

theorem view_stateOf (s : Settings) (viewed : Option String) (params : Params) :
    (stateOf s viewed params).view =
      (queryOf s viewed params).shown s (modeOf s viewed params) := by
  rw [LinkState.view, stateOf]
  dsimp only
  generalize modeOf s viewed params = mode
  rcases mode with (_ | _ | _ | _) | (_ | _ | _) <;> rfl

theorem toSnapshot_stateOf (known : IsResultView viewed) :
    (stateOf s viewed params).toSnapshot = snapshotOf s viewed params := by
  have named : (stateOf s viewed params).interface.viewed = viewed :=
    Interface.viewed_ofMode viewed _
  rw [LinkState.toSnapshot, view_stateOf, named, snapshotOf]
  rcases known with rfl | rfl | rfl <;> rfl

theorem exists_decode (site : Site) (depth : Nat) {url : String}
    (shallow : ¬IsTooDeep depth (paramsOf url)) :
    ∃ d, site.decode depth url = .ok d ∧
      d.toSnapshot = snapshotOf site.settings (viewedOf url) (paramsOf url) :=
  ⟨_, decode_eq site shallow, toSnapshot_stateOf (isResultView_viewedOf url)⟩

theorem toSnapshot_of_decode (read : site.decode depth url = .ok d) :
    d.toSnapshot = snapshotOf site.settings (viewedOf url) (paramsOf url) := by
  rw [(decode_eq_ok_iff.mp read).2, toSnapshot_stateOf (isResultView_viewedOf url)]

end Site

theorem Url.segments_concat (path : List Char) : segments (path ++ ['/']) = segments path := by
  rw [segments, segments, Text.pieces_append, List.filter_append]
  exact congrArg _ (List.append_nil _)

theorem Url.segments_trimEnd (path : List Char) :
    segments (Text.trimEnd (· == '/') path) = segments path := by
  induction path using List.reverseRecOn with
  | nil => rfl
  | append_singleton path c ih =>
    by_cases slash : c = '/'
    · rw [slash, Text.trimEnd_concat path rfl, ih, segments_concat]
    · rw [Text.trimEnd_of_last]
      intro d last
      rw [List.getLast?_concat, Option.mem_some_iff] at last
      simpa [← last] using slash

namespace Site

variable {site : Site} {x : Snapshot} {ps : List (String × String)} {e : Link}

/-- Links under the page itself name no result view. -/
def IsPage (site : Site) : Prop :=
  ∀ name ∈ (Url.segments site.basePath.toList).getLast?,
    String.ofList name ≠ hits ∧ String.ofList name ≠ docs

theorem split_url (base : Url.IsPath site.basePath.toList) (h : site.Links x ps e)
    (known : IsResultView x.viewed) (filled : e.params ≠ []) :
    Url.split e.url.toList = ⟨site.root ++ x.segment, Url.queryText e.params⟩ := by
  have plain : ∀ c ∈ x.segment, Url.isUnreserved c := by
    rw [Snapshot.segment]
    rcases known with viewed | viewed | viewed <;> rw [viewed] <;>
      exact List.all_eq_true.mp (by decide)
  rw [h.url, Link.join, List.isEmpty_eq_false_iff.mpr filled]
  exact Url.split_path (isPath_root base plain) fun _ => Url.isQueryChar_of_mem _

theorem viewedOf_url (base : Url.IsPath site.basePath.toList) (page : x.viewed = none → site.IsPage)
    (h : site.Links x ps e) (known : IsResultView x.viewed) (filled : e.params ≠ []) :
    viewedOf e.url = x.viewed := by
  rw [viewedOf, split_url base h known filled]
  dsimp only
  rw [Snapshot.segment]
  rcases known with viewed | viewed | viewed
  · have rest : Url.segments site.root = Url.segments site.basePath.toList := by
      rw [root, Url.segments_concat, Site.page, String.toList_ofList, Url.segments_trimEnd]
    rw [viewed, Option.getD_none, String.toList_empty, List.append_nil, rest]
    rw [Option.filter_eq_none_iff]
    intro name last
    obtain ⟨segment, ends, rfl⟩ := Option.map_eq_some_iff.mp last
    simpa using page viewed segment ends
  · rw [viewed, Option.getD_some, getLast?_root (by decide) (List.all_eq_true.mp (by decide))]
    rfl
  · rw [viewed, Option.getD_some, getLast?_root (by decide) (List.all_eq_true.mp (by decide))]
    rfl

theorem paramsOf_url (base : Url.IsPath site.basePath.toList) (h : site.Links x ps e)
    (known : IsResultView x.viewed) (filled : e.params ≠ []) : paramsOf e.url = e.params := by
  rw [paramsOf, split_url base h known filled, Url.pairs_queryText]

end Site

end Concordance
