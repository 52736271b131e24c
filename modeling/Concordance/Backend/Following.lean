import Concordance.Backend.Poller
import Concordance.Backend.Subcorpus

/-! Following one search: its totals, and beside them the size of the part of the corpus that its
filters leave. Both share the replies of one backend, in the order of their requests. Tasks with
even numbers are those of the poller, tasks with odd numbers those of the counter. -/

namespace Concordance.Backend

structure Following where
  poller : Poller
  counter : Counter

inductive FollowEvent
  | totals (e : PollEvent)
  | size (e : CounterEvent)

def Effect.map {ε ζ : Type} (task : Nat → Nat) (event : ε → ζ) : Effect ε → Effect ζ
  | record e => record (event e)
  | ask t operation request => ask (task t) operation request
  | pause t => pause (task t)
  | spawn t => spawn (task t)
  | cancel t => cancel (task t)

namespace Following

abbrev Effects := List (Effect FollowEvent)

def ofPoller (effects : Poller.Effects) : Effects := effects.map (·.map (2 * ·) .totals)

def ofCounter (effects : Counter.Effects) : Effects := effects.map (·.map (2 * · + 1) .size)

def resume (f : Following) (task : Nat) (s : Signal) : Following × Effects :=
  if task % 2 = 0 then
    let (poller, effects) := f.poller.resume (task / 2) s
    ({ f with poller }, ofPoller effects)
  else
    let (counter, effects) := f.counter.resume (task / 2) s
    ({ f with counter }, ofCounter effects)

def work (interval debounce : Nat) : Work Following FollowEvent :=
  ⟨resume, fun operation request => .totals (.fetch operation request),
    fun task => if task % 2 = 0 then interval else debounce⟩

/-- Whether no look-up is under way. -/
def isCounted (f : Following) : Bool := f.counter.lookups.all fun l => !l.phase.isLive

def isBroken (f : Following) : Bool :=
  f.counter.lookups.any fun l =>
    match l.phase with
    | .ended (.broken _) => true
    | _ => false

def start (corpus : Corpus) (operation : String) (request : Request) (pageSize : Int)
    (lookUp : Option (Option String)) : Following × Effects :=
  let (poller, polling) := Poller.idle.launch operation request pageSize
  let counter := Counter.ofCorpus corpus
  match lookUp with
  | none => (⟨poller, counter⟩, ofPoller polling)
  | some filter =>
    let (counter, counting) := counter.update filter
    (⟨poller, counter⟩, ofPoller polling ++ ofCounter counting)

abbrev Rehearsal := Run Following FollowEvent

/-- Waits for the size first and then for the totals. If the size cannot be told, nothing more is
waited for. -/
def follow (interval debounce : Nat) (started : Following × Effects) (script : List Planned) :
    Rehearsal :=
  let w := work interval debounce
  let run := ((Run.start started.1 script).performAll w started.2).waitFor w isCounted
  if run.state.isBroken then run else run.waitFor w fun f => f.poller.result?.isSome

end Following

end Concordance.Backend
