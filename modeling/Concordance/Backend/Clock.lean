import Concordance.Backend.Error

/-! Work on a virtual clock. The clock stands still while anything is to be done and then jumps to
the next alarm; alarms of one moment go off in the order in which they were set. -/

namespace Concordance.Backend

abbrev Request := List (String × Json)

inductive Signal
  | start
  | wake
  | reply (r : Reply)
  | cancel

inductive Effect (ε : Type)
  | record (event : ε)
  | ask (task : Nat) (operation : String) (request : Request)
  | pause (task : Nat)
  | spawn (task : Nat)
  | cancel (task : Nat)

structure Alarm where
  due : Nat
  ticket : Nat
  task : Nat
  signal : Signal

def Alarm.before (a b : Alarm) : Bool := a.due < b.due || (a.due == b.due && a.ticket < b.ticket)

/-- A reply that is on its way for `delay` milliseconds. -/
structure Planned where
  delay : Nat
  reply : Reply

/-- A kind of work: how it goes on at a signal, how a request is recorded, and how long each task
pauses. -/
structure Work (σ ε : Type) where
  resume : σ → Nat → Signal → σ × List (Effect ε)
  fetched : String → Request → ε
  pause : Nat → Nat

/-- Where a run stands. Tickets count the alarms that were set. -/
structure Run (σ ε : Type) where
  state : σ
  now : Nat
  ticket : Nat
  alarms : List Alarm
  script : List Planned
  log : List (Nat × ε)

namespace Run

variable {σ ε : Type}

def start (state : σ) (script : List Planned) : Run σ ε := ⟨state, 0, 1, [], script, []⟩

def scriptEnd : Planned := ⟨0, .error (.failed "SCRIPT_END" "no response")⟩

def become (run : Run σ ε) (state : σ) : Run σ ε := { run with state }

def record (run : Run σ ε) (event : ε) : Run σ ε :=
  { run with log := run.log ++ [(run.now, event)] }

def set (run : Run σ ε) (delay task : Nat) (signal : Signal) : Run σ ε :=
  { run with
    ticket := run.ticket + 1
    alarms := run.alarms ++ [⟨run.now + delay, run.ticket, task, signal⟩] }

/-- A reply without delay comes before everything else. -/
def answer (run : Run σ ε) (task : Nat) (p : Planned) : Run σ ε :=
  if p.delay = 0 then
    { run with alarms := ⟨run.now, 0, task, .reply p.reply⟩ :: run.alarms }
  else run.set p.delay task (.reply p.reply)

/-- A task that is cancelled waits for nothing else any more. -/
def perform (w : Work σ ε) (run : Run σ ε) : Effect ε → Run σ ε
  | .record event => run.record event
  | .ask task operation request =>
    let run := run.record (w.fetched operation request)
    { run with script := run.script.tail }.answer task (run.script.headD scriptEnd)
  | .pause task => run.set (w.pause task) task .wake
  | .spawn task => run.set 0 task .start
  | .cancel task => { run with alarms := run.alarms.filter (·.task != task) }.set 0 task .cancel

def performAll (w : Work σ ε) (run : Run σ ε) (effects : List (Effect ε)) : Run σ ε :=
  effects.foldl (perform w) run

def next? (run : Run σ ε) : Option Alarm :=
  run.alarms.foldl (fun best a =>
    match best with
    | none => some a
    | some b => if a.before b then some a else some b) none

def fire (w : Work σ ε) (run : Run σ ε) (a : Alarm) : Run σ ε :=
  let (state, effects) := w.resume run.state a.task a.signal
  { run with
    state
    now := max run.now a.due
    alarms := run.alarms.filter fun b => !(b.due == a.due && b.ticket == a.ticket) }.performAll
    w effects

/-- Lets everything happen that is due before the moment `due`, or at it with an earlier ticket. -/
def advance (w : Work σ ε) (due ticket : Nat) : Nat → Run σ ε → Run σ ε
  | 0, run => run
  | fuel + 1, run =>
    match run.next? with
    | none => run
    | some a =>
      if a.due < due || (a.due == due && a.ticket < ticket) then
        advance w due ticket fuel (run.fire w a)
      else run

/-- Every alarm takes a reply from the script, ends a task or starts one. -/
def fuel (run : Run σ ε) : Nat := 4 * (run.script.length + run.alarms.length + 1)

/-- Waits until a moment; the wait itself takes a ticket. -/
def waitUntil (w : Work σ ε) (due : Nat) (run : Run σ ε) : Run σ ε :=
  let run := { run with ticket := run.ticket + 1 }
  let run := run.advance w due (run.ticket - 1) run.fuel
  { run with now := max run.now due }

def settle (w : Work σ ε) (done : σ → Bool) : Nat → Run σ ε → Run σ ε
  | 0, run => run
  | fuel + 1, run =>
    match done run.state, run.next? with
    | false, some a => settle w done fuel (run.fire w a)
    | _, _ => run

def waitFor (w : Work σ ε) (done : σ → Bool) (run : Run σ ε) : Run σ ε :=
  run.settle w done run.fuel

def finish (w : Work σ ε) (run : Run σ ε) : Run σ ε := run.waitFor w fun _ => false

end Run

end Concordance.Backend
