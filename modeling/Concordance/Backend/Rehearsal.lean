import Concordance.Backend.Poller
import Concordance.Backend.Subcorpus

/-! Runs of the poller and of the counter against planned replies. What is to be done at one
moment is done at once, without waiting in between. -/

namespace Concordance.Backend

namespace Poller

inductive Action
  | submit (operation : String) (params : Request)
  | stop
  | advance
  | status

abbrev Rehearsal := Run Poller PollEvent

namespace Rehearsal

def apply (interval : Nat) (run : Rehearsal) (step : Poller × Effects) : Rehearsal :=
  Run.performAll (work interval) { run with state := step.1 } step.2

def act (interval : Nat) (run : Rehearsal) : Action → Except Json.NoCount Rehearsal
  | .submit operation params => do
    let step ← run.state.submit operation params
    .ok ((apply interval run step).record (.submitted step.1.generation))
  | .stop =>
    .ok ((run.performAll (work interval) run.state.stop).record (.stopped run.state.status))
  | .advance =>
    let run := { run with state := run.state.advance }
    .ok (run.record (.advanced run.state.generation))
  | .status => .ok (run.record (.status run.state.status))

def actAll (interval : Nat) : List (Nat × Action) → Rehearsal → Except Json.NoCount Rehearsal
  | [], run => .ok run
  | (due, action) :: rest, run => do
    let run := if run.now < due then run.waitUntil (work interval) due else run
    let run ← act interval run action
    actAll interval rest run

end Rehearsal

/-- The log starts with the status before the first action and ends with the status after the
last task. -/
def rehearse (interval : Nat) (actions : List (Nat × Action)) (script : List Planned) :
    Except Json.NoCount Rehearsal := do
  let run ← Rehearsal.actAll interval actions ((Run.start idle script).record (.status .idle))
  let run := run.finish (work interval)
  .ok (run.record (.ended run.state.status))

end Poller

namespace Counter

abbrev Rehearsal := Run Counter CounterEvent

namespace Rehearsal

def act (debounce : Nat) (run : Rehearsal) (filter : Option String) : Rehearsal :=
  let step := run.state.update filter
  (Run.performAll (work debounce) { run with state := step.1 } step.2).record (.updated filter)

def actAll (debounce : Nat) : List (Nat × Option String) → Rehearsal → Rehearsal
  | [], run => run
  | (due, filter) :: rest, run =>
    let run := if run.now < due then run.waitUntil (work debounce) due else run
    actAll debounce rest (act debounce run filter)

end Rehearsal

def rehearse (corpus : Corpus) (debounce : Nat) (actions : List (Nat × Option String))
    (script : List Planned) : Rehearsal :=
  let run := Rehearsal.actAll debounce actions (Run.start (ofCorpus corpus) script)
  let run := run.finish (work debounce)
  run.record (.ended run.state.value)

end Counter

end Concordance.Backend
