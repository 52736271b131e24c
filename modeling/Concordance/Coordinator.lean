import Concordance.Navigation
import Concordance.History
import Concordance.View.Batch
import Concordance.Backend.Poller

/-! Submitting searches: a search is settled, its address recorded, it enters the history, and the
counting of its results begins. -/

namespace Concordance

open Backend

def Parameters.request (p : Parameters) : Request :=
  p.pairs.map fun (name, value) => (name, Json.ofOption (fun
    | .text s => .str s
    | .number n => .ofNumber n) value)

structure Coordinator where
  site : Site
  navigation : Navigation
  history : Option History
  poller : Option Poller

structure Submission where
  snapshot : Snapshot
  link : Link
  params : Option Parameters
  pushed : Bool
  generation : Option Nat
  deriving DecidableEq, Repr

/-- Why a search is not submitted: it has no address, or the history cannot be cut down to its
limit. -/
inductive Submission.Refusal
  | link (r : Link.Refusal)
  | limit
  deriving DecidableEq, Repr

namespace Coordinator

def count (p : Poller) (viewed : String) (params : Parameters) : Poller × Poller.Effects :=
  p.launch viewed params.request
    (if params.number = 0 then Totals.defaultPageSize else params.number)

structure Step where
  state : Coordinator
  effects : Poller.Effects
  result : Except Submission.Refusal Submission

def settle (site : Site) (x : Snapshot) :
    Except Link.Refusal (Snapshot × Option Parameters × Link) := do
  x.globals.validate.mapError .unusable
  let settled := x.prepare site.settings
  let params ← (settled.parameters site.settings).mapError .unusable
  let link ← site.encode settled
  .ok (settled, params, link)

def accept (c : Coordinator) (x : Snapshot) (params : Option Parameters) (link : Link) : Step :=
  let (navigation, pushed) := c.navigation.record link.url link.truncated x
  let history := c.history.map fun h => h.add x link.url
  if history.any (!·.holdsLimit) then ⟨{ c with navigation, history }, [], .error .limit⟩
  else match c.poller, params with
  | some poller, some p =>
    let (poller, effects) := count poller (x.viewed.getD hits) p
    ⟨{ c with navigation, history, poller := some poller }, effects,
      .ok ⟨x, link, params, pushed, some poller.generation⟩⟩
  | _, _ => ⟨{ c with navigation, history }, [], .ok ⟨x, link, params, pushed, none⟩⟩

def submit (c : Coordinator) (x : Snapshot) : Step :=
  match settle c.site x with
  | .ok (settled, params, link) => c.accept settled params link
  | .error e => ⟨c, [], .error (.link e)⟩

/-- Enters searches into a history, the last of them first, until one is refused. -/
def queue (site : Site) : List Snapshot → History → History × Option Submission.Refusal
  | [], h => (h, none)
  | x :: xs, h =>
    match queue site xs h with
    | (h, some e) => (h, some e)
    | (h, none) =>
      let settled := x.prepare site.settings
      match site.encode settled with
      | .ok link =>
        let h := h.add settled link.url
        (h, if h.holdsLimit then none else some .limit)
      | .error e => (h, some (.link e))

/-- Submits the first search of a batch once the others wait in the history. -/
def submitBatch (c : Coordinator) (x : Snapshot) : Step :=
  match View.split x.view with
  | .error e => ⟨c, [], .error (.link (.unusable e))⟩
  | .ok [] => ⟨c, [], .error (.link (.unusable .nothingToSplit))⟩
  | .ok (view :: rest) =>
    let first : Snapshot := { x with view := some view }
    match c.history with
    | none => c.submit first
    | some h =>
      match queue c.site (rest.map fun v => { x with view := some v }) h with
      | (h, some e) => ⟨{ c with history := some h }, [], .error e⟩
      | (h, none) => { c with history := some h }.submit first

def resume (c : Coordinator) (task : Nat) (s : Signal) : Coordinator × Poller.Effects :=
  match c.poller with
  | none => (c, [])
  | some p =>
    let (p, effects) := p.resume task s
    ({ c with poller := some p }, effects)

def work (interval : Nat) : Work Coordinator PollEvent := ⟨resume, .fetch, fun _ => interval⟩

abbrev Rehearsal := Run Coordinator PollEvent

namespace Rehearsal

def act (interval : Nat) (run : Rehearsal) (batch : Bool) (x : Snapshot) (pause : Nat) :
    Rehearsal × Except Submission.Refusal Submission :=
  let step := if batch then run.state.submitBatch x else run.state.submit x
  let run := (run.performAll (work interval) step.effects).become step.state
  (run.waitUntil (work interval) (run.now + pause), step.result)

end Rehearsal

end Coordinator

end Concordance
