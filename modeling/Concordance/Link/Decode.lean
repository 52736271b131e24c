import Concordance.Url.Query
import Concordance.Url.Parts
import Concordance.Json.Reader
import Concordance.View.Classify
import Concordance.Link.Encode

/-! What a web address says of a search. A parameter that is missing or makes no sense has its
default; only data that is nested too deeply leaves an address unread. -/

namespace Concordance

structure Interface where
  form : Form
  searchMode : SearchMode
  exploreMode : ExploreMode
  viewed : Option String
  deriving DecidableEq, Repr

namespace Interface

def ofMode (viewed : Option String) : Mode → Interface
  | .search m => ⟨.search, m, .ngram, viewed⟩
  | .explore m => ⟨.explore, .simple, m, viewed⟩

def mode (i : Interface) : Mode :=
  match i.form with
  | .search => .search i.searchMode
  | .explore => .explore i.exploreMode

end Interface

structure LinkState where
  interface : Interface
  simple : View
  extended : View
  advanced : View
  expert : View
  frequency : View
  ngram : View
  corpora : View
  filters : Keyed FilterValue
  gap : Option String
  globals : GlobalSettings
  hits : ResultSettings
  docs : ResultSettings
  deriving DecidableEq, Repr

namespace LinkState

def view (d : LinkState) : View :=
  match d.interface.mode with
  | .search .simple => d.simple
  | .search .extended => d.extended
  | .search .advanced => d.advanced
  | .search .expert => d.expert
  | .explore .frequency => d.frequency
  | .explore .ngram => d.ngram
  | .explore .corpora => d.corpora

def toSnapshot (d : LinkState) : Snapshot :=
  { view := some d.view
    filters := d.filters
    gap := d.gap
    globals := d.globals
    viewed := d.interface.viewed
    results := if d.interface.viewed = some Concordance.docs then d.docs else d.hits }

end LinkState

inductive Link.Unreadable
  | tooDeep
  deriving DecidableEq, Repr

namespace Site

def initialNgramSize : Int := 3

def mostWordsAroundHit : Int := 10

abbrev Params := List (String × String)

def integerOf? (params : Params) (name : String) : Option Int :=
  ((Url.value? params name).bind fun s => Number.read? s.toList).bind Number.integer?

def globalsOf (params : Params) : GlobalSettings :=
  let pageSize := match integerOf? params "number" with
    | some n => if GlobalSettings.pageSizes.contains n then n else GlobalSettings.defaultPageSize
    | none => GlobalSettings.defaultPageSize
  let count := (integerOf? params "samplenum").filter fun n => 0 ≤ n
  let percentage := ((Url.value? params "sample").bind fun s => Number.read? s.toList).filter
    (·.between 0 100)
  { pageSize
    sampleMode := if count.isSome then SampleMode.count else SampleMode.percentage
    sampleSize := match count with
      | some n => some (.int n)
      | none => percentage
    sampleSeed := integerOf? params "sampleseed"
    wordsAroundHit := (integerOf? params "wordsaroundhit").filter fun n =>
      0 ≤ n ∧ n ≤ mostWordsAroundHit }

def resultsOf (params : Params) (groups : GroupSpec) (displayMode : Option String)
    (pageSize : Int) : ResultSettings :=
  { groupBy := groups.groupBy
    contextKeys := groups.contextKeys
    caseSensitive := groups.caseSensitive
    sort := Text.nonEmpty? (Url.value? params "sort")
    viewGroup :=
      if groups.keys.isEmpty then none else Text.nonEmpty? (Url.value? params "viewgroup")
    page := match integerOf? params "first" with
      | some first => if 0 < first then first / pageSize else 0
      | none => 0
    displayMode }

/-- The form and view that data asks for. Where the query builder is disabled, expert editing takes
its place. -/
def askedMode? (settings : Settings) (data : Json) : Option Mode :=
  match data.get? "form" with
  | some (.str "search") =>
    match data.get? "patternMode" with
    | some (.str name) => do
      let m ← SearchMode.ofName? name
      some (.search (if m = .advanced ∧ !settings.advancedEnabled then .expert else m))
    | _ => none
  | some (.str "explore") =>
    match data.get? "exploreMode" with
    | some (.str name) => (ExploreMode.ofName? name).map .explore
    | _ => none
  | _ => none

/-- The form and view that a parameter asks for, if it is the text of an object. That is looked at
before it is read. -/
def requestedMode (depth : Nat) (settings : Settings) (text : String) :
    Except Link.Unreadable (Option Mode) :=
  if text.toList.head? ≠ some '\x7b' then .ok none
  else
    match Json.read depth text.toList with
    | .ok data => .ok (askedMode? settings data)
    | .error .malformed => .ok none
    | .error .tooDeep => .error .tooDeep

def blankNgram (s : Settings) : View :=
  .ngram s.primary (min initialNgramSize s.ngramMaxSize) s.ngramMaxSize
    (List.replicate s.ngramMaxSize.toNat ⟨s.primary, "", false⟩)

/-- `depth` bounds how deeply the data of the interface may be nested. -/
def decode (site : Site) (depth : Nat) (url : String) : Except Link.Unreadable LinkState := do
  let s := site.settings
  let parts := Url.split url.toList
  let viewed := ((Url.segments parts.path).getLast?.map String.ofList).filter fun name =>
    name = hits ∨ name = docs
  let params := Url.pairs parts.query
  let groups := GroupSpec.parse (Url.value? params "group")
  let displayMode := Text.nonEmpty? (Url.value? params "groupDisplayMode")
  let q : Query :=
    { pattern := Text.nonEmpty? (Url.value? params "patt")
      filters := Filter.decode (Url.value? params "filter") s.corpus.fields
      groups
      gap := Text.nonEmpty? (Url.value? params "pattgapdata")
      viewed
      displayMode }
  let globals := globalsOf params
  let results := resultsOf params groups displayMode globals.pageSize
  let requested ← (Url.value? params "interface").elim (.ok none) (requestedMode depth s)
  let mode := match requested with
    | some m => m
    | none => (q.classify s).mode
  .ok {
    interface := .ofMode viewed mode
    simple := (q.simple? s).getD (.blank s.primary)
    extended := (q.extended? s).getD (.extended ∅ none false)
    advanced := (q.advanced? s).getD (.advanced none)
    expert := q.expert?.getD (.expert none)
    frequency := (q.frequency? s).getD (.frequency s.primary)
    ngram := (q.ngram? s).getD (blankNgram s)
    corpora := q.corpora?.getD (.corpora none none)
    filters := q.filters
    gap := q.gap
    globals
    hits := if viewed = some Concordance.hits then results else .initial
    docs := if viewed = some Concordance.docs then results else .initial }

end Site

end Concordance
