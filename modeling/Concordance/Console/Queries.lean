import Concordance.Backend.Following
import Concordance.Config.Basic
import Concordance.Coordinator
import Concordance.Json.Display
import Concordance.Link.Decode
import Concordance.Pattern.Printer
import Concordance.Snapshot.Json
import Concordance.Console.Command
import Concordance.Console.Describe
import Concordance.Console.Desk

/-! The commands that read, show, link and count searches. -/

namespace Concordance.Console

open Session Describe

/-! ## Views -/

def showView (corpus : Corpus) (title : String) (v : View) : Session Unit :=
  out (Item.fields? (some title) (rows corpus v))

def QueryOptions.toQuery (o : QueryOptions) (s : Settings) : Query :=
  { pattern := Text.nonEmpty? o.pattern
    filters := Filter.decode o.filter s.corpus.fields
    groups := .parse o.group
    gap := Text.nonEmpty? o.gap
    viewed := o.viewed
    displayMode := none }

def classifyQuery (c : Config) (verbose : Bool) (o : QueryOptions) : Session Unit := do
  let s := c.settings
  let q := o.toQuery s
  let view := q.classify s
  if q.hasPattern && (q.parsed s).isNone && verbose then
    info "Pattern does not parse; only the expert view can hold it"
  showView s.corpus "View" view
  let compiled := view.compile s
  out (Item.fields? (some "Compiled")
    [("pattern", compiled.pattern), ("group", some (",".intercalate compiled.groupBy)),
      ("results", compiled.viewed)])

/-! ## Texts -/

def repetition (t : Token) : String :=
  if t.optional then "optional"
  else
    match t.repeats with
    | none => ""
    | some r =>
      let most := match r.most with
        | some n => toString n
        | none => "∞"
      s!"{r.least}..{most}"

def tags (t : Token) : String :=
  " ".intercalate (((Text.nonEmpty? t.leadingTag).map fun s => s!"<{s}>").toList ++
    ((Text.nonEmpty? t.trailingTag).map fun s => s!"</{s}>").toList)

def tokenRow (t : Token) : List String :=
  [Markup.escape ((t.condition.map Condition.text).getD "any token"), repetition t,
    Markup.escape (tags t)]

def parsePattern (c : Config) (text : String) (default : Option String) : Session Unit := do
  let s := c.settings
  match Pattern.parse text ((Text.nonEmpty? default).getD s.primary) with
  | .error e =>
    let message := e.message.getD s!"Failed to parse token pattern '{e.text}'"
    fail Exit.misread message (some "Quote values with \" and wrap attribute tests in [ ]")
  | .ok p =>
    out (Item.table? (some "Tokens") ["#", "Constraint", "Repeat", "Tags"]
      (p.tokens.zipIdx.map fun (t, i) => toString (i + 1) :: tokenRow t))
    out (Item.fields? none
      [("within", p.within), ("canonical", some (p.text (some s.primary)))])

def valuesText (values : List String) : String := Markup.escape (" | ".intercalate values)

def filterTable (rows : List (List String)) : Session Unit :=
  out (Item.table? (some "Filters") ["Field", "Kind", "Values"] rows)

def parseFilter (c : Config) (text : String) : Session Unit :=
  match Filter.parse text with
  | .error e => fail Exit.misread s!"Failed to parse filter '{e.text}'"
      (some "Use +field:\"value\", +field:(\"a\" \"b\") or +field:[lo TO hi]")
  | .ok clauses => do
    let decoded := Filter.decodeClauses clauses c.corpus.fields
    filterTable (clauses.map fun clause =>
      let label := Markup.escape (fieldLabel c.corpus clause.field)
      match decoded.get? clause.field with
      | none => [label, "[warning]ignored[/warning]", valuesText clause.values]
      | some f => [label, f.kind.name, valuesText f.values])
    out (Item.fields? none [("canonical", Filter.encode? decoded.values)])

/-! ## Addresses -/

def parameterRows (p : Parameters) : Rows :=
  p.pairs.map fun (name, value) => (name, value.map fun v => String.ofList v.render)

def readUrl (site : Site) (url : String) : Session LinkState :=
  match site.decode depth url with
  | .ok decoded => pure decoded
  | .error .tooDeep => stop Exit.refused

def decodeUrl (c : Config) (url : String) (asJson : Bool) : Session Unit := do
  let site := c.site
  let decoded ← readUrl site url
  let x := decoded.toSnapshot
  if asJson then echo (String.ofList (x.toJson.sorted.pretty 0) ++ "\n")
  else
    showView c.corpus "View" decoded.view
    if !decoded.filters.isEmpty then
      filterTable (decoded.filters.values.map fun f =>
        [Markup.escape (fieldLabel c.corpus f.id), f.kind.name, valuesText f.values])
    match x.parameters site.settings with
    | .error e => fail Exit.refused e.message none
    | .ok none =>
      out (Item.fields? (some "Backend request") [("results", some "none shown")])
    | .ok (some p) =>
      out (Item.fields? (some "Backend request") (("operation", x.viewed) :: parameterRows p))

def showUrl (url : String) : Session Unit :=
  out (Item.line? s!"[url]{Markup.escape url}[/url]")

/-- A history stands at a path of at most 504 bytes. -/
def canKeepHistory (path : FilePath) : Bool := path.isNameable && path.render.utf8ByteSize ≤ 504

/-- Works on the history of a configuration. What it changes is kept unless the command stops. -/
def withHistory {α : Type} (place : Place) (c : Config) (act : History → Session (History × α)) :
    Session α := do
  let path := c.historyPath.resolve place.directory
  let desk ← get
  if desk.files.contains path.render || !desk.admits place path || !canKeepHistory path then
    stop Exit.refused
  else
    let entries := (desk.histories.get? path.render).getD []
    set { desk with histories := desk.histories.insert path.render entries }
    let (h, result) ← act ⟨c.settings, c.historyEntries, place.time, entries⟩
    modify fun d => { d with histories := d.histories.insert path.render h.entries }
    return result

def stopRefused {α : Type} (hint : String) : Link.Refusal → Session α
  | .unusable e => fail Exit.refused e.message (some hint)
  | .numberTooLong => stop Exit.refused

def encodeBatch (place : Place) (c : Config) (x : Snapshot) : Session Unit := do
  let submission ← withHistory place c fun h => do
    let coordinator : Coordinator :=
      { site := c.site, navigation := .opened none, history := some h, poller := none }
    let step := coordinator.submitBatch x
    match step.result with
    | .error (.link e) =>
      stopRefused "Split a query on annotation values, like [lemma=\"cat|dog\"]" e
    | .error .limit => stop Exit.refused
    | .ok submission => return (step.state.history.getD h, submission)
  match submission.snapshot.view with
  | some view => showView c.corpus "First search" view
  | none => pure ()
  showUrl submission.link.url
  success "Queued the batch in the query history"

namespace SearchOptions

def globals (o : SearchOptions) : GlobalSettings :=
  { pageSize := o.pageSize
    sampleMode := if o.count.isSome then SampleMode.count else SampleMode.percentage
    sampleSize := (o.count.map Number.int).or (o.percentage.map Number.float)
    sampleSeed := o.seed
    wordsAroundHit := o.wordsAroundHit }

def results (o : SearchOptions) (groups : GroupSpec) : ResultSettings :=
  { groupBy := groups.groupBy
    contextKeys := groups.contextKeys
    caseSensitive := groups.caseSensitive
    sort := o.sort
    viewGroup := o.viewGroup
    page := o.page
    displayMode := none }

/-- A view as a batch, if it can be one: a simple view is extended for that. -/
def batchView : View → View
  | .simple v => .extended (Keyed.empty.insert v.id v) none true
  | .extended values within _ => .extended values within true
  | v => v

def settled (s : Settings) (view : View) (x : Snapshot) : Snapshot :=
  match view.form, x.viewed with
  | .explore, _ => x.prepare s
  | .search, none =>
    { x with viewed := some (if (view.compile s).pattern.isSome then hits else docs) }
  | .search, some _ => x

end SearchOptions

def encodeUrl (place : Place) (c : Config) (o : SearchOptions) : Session Unit := do
  if o.percentage.isSome && o.count.isSome then
    fail Exit.refused "Use either --sample or --sample-count, not both" none
  let s := c.settings
  let q := o.query.toQuery s
  let view := if o.splitBatch then SearchOptions.batchView (q.classify s) else q.classify s
  let x : Snapshot :=
    { view := some view
      filters := q.filters
      gap := q.gap
      globals := o.globals
      viewed := o.query.viewed
      results := o.results q.groups }
  if o.splitBatch then encodeBatch place c x
  else
    let x := SearchOptions.settled s view x
    match c.site.encode x with
    | .error e => stopRefused "Pass --seed together with --sample or --sample-count" e
    | .ok link =>
      showView s.corpus "View" view
      for id in caseless s.corpus view do
        warning s!"{id} cannot be searched case-sensitively; the backend ignores case"
      showUrl link.url
      if link.truncated then
        warning (s!"URL longer than {c.site.maxLength} characters; " ++
          "the pattern is not part of it")
      if o.record then
        withHistory place c fun h => do
          let h := h.add x link.url
          if h.holdsLimit then return (h, ()) else stop Exit.refused
        success "Added to query history"
      else if link.truncated then
        info "Use --record to keep the full search in the query history"

def showHistory (place : Place) (c : Config) (limit : Int) (clear : Bool) : Session Unit :=
  if clear then do
    let removed ← withHistory place c fun h => return h.clear
    success s!"Removed {removed} history entries"
  else do
    let entries ← withHistory place c fun h =>
      match h.list? (some limit) with
      | some entries => return (h, entries)
      | none => stop Exit.refused
    if entries.isEmpty then info "Query history is empty"
    else
      out (Item.table? (some "Query history") ["When", "View", "Pattern", "Filter", "URL"]
        (entries.map fun e =>
          [e.time, e.view.getD "", Markup.escape (e.pattern.getD ""),
            Markup.escape (e.filter.getD ""), Markup.escape e.url]))

/-! ## Counting -/

/-- The unit of the clock: the smallest magnitude of a second's number, divided by a thousand. -/
def ticksPerMillisecond : Nat := Nat.pow 2 1074

/-- A number of seconds on the clock; no time at all if it is not positive. -/
def ticks : Binary64 → Nat
  | .finite false p => 1000 * (Binary64.mantissa p * Nat.pow 2 (Binary64.shift p))
  | .infinite false => 1000 * Nat.pow 2 2100
  | _ => 0

def onClock (p : Backend.Planned) : Backend.Planned := ⟨p.delay * ticksPerMillisecond, p.reply⟩

def showTotals (t : Backend.Totals) : Session Unit := do
  let count := match t.hits, t.docs with
    | .null, .null => "?"
    | .null, docs => docs.shown
    | hits, _ => hits.shown
  match t.pages? with
  | none => stop Exit.refused
  | some pages =>
    let line := s!"{count} results, {pages} pages"
    match t.status with
    | .polling => info s!"{line} (still counting...)"
    | .settled => success line
    | .aborted => warning s!"{line}; too busy, counting aborted"
    | _ => pure ()

def showEvent : Backend.FollowEvent → Session Unit
  | .totals (.update t) => showTotals t
  | .size (.update (some size)) =>
    out (Item.line? s!"Sub-corpus: {size.documents} documents, {size.tokens} tokens")
  | _ => pure ()

def errorOf? : Backend.FollowEvent → Option Backend.Error
  | .totals (.error e) | .size (.error e) => some e
  | _ => none

def followTotals (c : Config) (operation : String) (p : Parameters)
    (lookUp : Option (Option String)) : Session Unit := do
  let desk ← get
  let size := if p.number = 0 then Backend.Totals.defaultPageSize else p.number
  let started := Backend.Following.start c.corpus operation p.request size lookUp
  let run := Backend.Following.follow (ticks c.pollInterval) (ticks c.debounce) started
    (desk.script.map onClock)
  set { desk with script := desk.script.drop (desk.script.length - run.script.length) }
  for (_, e) in run.log do showEvent e
  match run.state.isBroken, run.state.poller.result? with
  | false, some (.totals t) =>
    for e in run.log.filterMap fun entry => errorOf? entry.2 do error e.message none
    if t.status == .failed then stop Exit.backendFailed
  | _, _ => stop Exit.refused

def showCount (c : Config) (url : String) (subcorpus : Bool) : Session Unit := do
  if (c.corpusId.getD "").isEmpty then
    fail Exit.refused "No corpus configured" (some "Set 'corpus' in the [backend] section")
  let x := (← readUrl c.site url).toSnapshot
  match x.parameters c.settings with
  | .error e => fail Exit.refused e.message none
  | .ok none =>
    fail Exit.refused "The URL shows no results" (some "Use a URL ending in /hits or /docs")
  | .ok (some p) =>
    let filter := Filter.encode? x.activeFilters.values
    followTotals c (x.viewed.getD hits) p (if subcorpus then some filter else none)

end Concordance.Console
