import Concordance.Keyed
import Concordance.Backend.Totals
import Concordance.Backend.Clock

/-! Keeping the totals of the latest search up to date. Each submission starts a new generation;
its task asks for the counts again and again while the backend is still counting, and whatever
reaches a task of an older generation is dropped. -/

namespace Concordance.Backend

inductive Outcome
  | totals (t : Totals)
  | cancelled
  | broken (e : Json.NoCount)

inductive Phase
  | created
  | fetching
  | sleeping
  | ended (outcome : Outcome)

structure Poll where
  generation : Nat
  operation : String
  request : Request
  pageSize : Int
  phase : Phase

structure Poller where
  generation : Nat
  status : Status
  polls : List Poll

inductive PollEvent
  | status (s : Status)
  | submitted (generation : Nat)
  | stopped (s : Status)
  | advanced (generation : Nat)
  | fetch (operation : String) (request : Request)
  | update (t : Totals)
  | error (e : Error)
  | ended (s : Status)

namespace Phase

def isLive : Phase → Bool
  | ended _ => false
  | _ => true

end Phase

namespace Poller

abbrev Effects := List (Effect PollEvent)

def idle : Poller := ⟨0, .idle, []⟩

def setPhase (p : Poller) (task : Nat) (phase : Phase) : Poller :=
  { p with polls := p.polls.modify task fun t => { t with phase } }

/-- Asks for the cancellation of the last submission's task, unless it has ended. -/
def stop (p : Poller) : Effects :=
  match p.polls.getLast? with
  | some t => if t.phase.isLive then [.cancel (p.polls.length - 1)] else []
  | none => []

/-- Makes every task so far an old one. -/
def advance (p : Poller) : Poller := { p with generation := p.generation + 1 }

def countRequest (params : Request) : Request := Keyed.put "number" (.int 0) params

def pageSize (params : Request) : Except Json.NoCount Int :=
  match (params.find? (·.1 = "number")).map (·.2) with
  | some v => if v.truthy then v.count else .ok Totals.defaultPageSize
  | none => .ok Totals.defaultPageSize

def launch (p : Poller) (operation : String) (params : Request) (size : Int) : Poller × Effects :=
  let generation := p.generation + 1
  let poll : Poll := ⟨generation, operation, countRequest params, size, .created⟩
  (⟨generation, .polling, p.polls ++ [poll]⟩, p.stop ++ [.spawn p.polls.length])

def submit (p : Poller) (operation : String) (params : Request) :
    Except Json.NoCount (Poller × Effects) := do
  let size ← pageSize params
  .ok (p.launch operation params size)

def finish (p : Poller) (task : Nat) (t : Totals) : Poller × Effects :=
  ({ p.setPhase task (.ended (.totals t)) with status := t.status }, [.record (.update t)])

def drop (p : Poller) (task generation : Nat) : Poller × Effects :=
  (p.setPhase task (.ended (.totals (.superseded generation))), [])

def ask (p : Poller) (task : Nat) (t : Poll) : Poller × Effects :=
  (p.setPhase task .fetching, [.ask task t.operation t.request])

def receive (p : Poller) (task : Nat) (t : Poll) (r : Reply) : Poller × Effects :=
  if t.generation ≠ p.generation then p.drop task t.generation
  else
    match r with
    | .error (.busy m) => p.finish task (.aborted t.generation t.pageSize (.busy m))
    | .error (.failed c m) =>
      let (p, effects) := p.finish task (.failed t.generation t.pageSize (.failed c m))
      (p, .record (.error (.failed c m)) :: effects)
    | .ok response =>
      match Totals.ofResponse t.generation t.operation response t.pageSize with
      | .error e => (p.setPhase task (.ended (.broken e)), [])
      | .ok totals =>
        if totals.stillCounting then
          ({ p.setPhase task .sleeping with status := totals.status },
            [.record (.update totals), .pause task])
        else p.finish task totals

/-- One step of a task. A signal that does not fit where the task stands is ignored. -/
def resume (p : Poller) (task : Nat) (s : Signal) : Poller × Effects :=
  match p.polls[task]? with
  | none => (p, [])
  | some t =>
    match t.phase, s with
    | .ended _, _ => (p, [])
    | _, .cancel => (p.setPhase task (.ended .cancelled), [])
    | .created, .start => p.ask task t
    | .fetching, .reply r => p.receive task t r
    | .sleeping, .wake =>
      if t.generation = p.generation then p.ask task t else p.drop task t.generation
    | _, _ => (p, [])

def work (interval : Nat) : Work Poller PollEvent := ⟨resume, .fetch, fun _ => interval⟩

def result? (p : Poller) : Option Outcome :=
  p.polls.getLast?.bind fun t =>
    match t.phase with
    | .ended outcome => some outcome
    | _ => none

end Poller

end Concordance.Backend
