import Concordance.Proofs.Keyed
import Concordance.Proofs.Backend.Reached

/-! What is heard of a poll that nobody disturbs. It asks again and again, with one pause after each
reply, up to the first reply that is not a summary of a search still counting. -/

namespace Concordance.Backend

/-! ### Replies -/

def countNames : List String :=
  ["numberOfHits", "numberOfHitsRetrieved", "numberOfDocs", "numberOfDocsRetrieved"]

/-- The summary of a response holds integers for the counts, where it holds any. -/
def IsSummary (response : Json) : Prop :=
  ∃ summary, response.objectIn "summary" = .ok summary ∧
    ∀ name ∈ countNames, ∀ v, summary.get? name = some v → ∃ n, v = .int n

def IsOutcome : Reply → Prop
  | .ok response => IsSummary response
  | .error _ => True

def countIn? (response : Json) (name : String) : Option Int :=
  match (response.objectAt "summary").get? name with
  | some (.int n) => some n
  | _ => none

def isCounting (response : Json) : Bool :=
  (((response.objectAt "summary").get? "stillCounting").map Json.truthy).getD false

/-- What has been retrieved. All that was counted has been, if the summary does not tell. -/
def retrievedIn (operation : String) (response : Json) : Int :=
  if operation = "hits" then
    ((countIn? response "numberOfHitsRetrieved").or (countIn? response "numberOfHits")).getD 0
  else ((countIn? response "numberOfDocsRetrieved").or (countIn? response "numberOfDocs")).getD 0

def statusOf : Reply → Status
  | .ok response => if isCounting response then .polling else .settled
  | .error (.busy _) => .aborted
  | .error (.failed _ _) => .failed

def errorOf? : Reply → Option Error
  | .error (.failed code message) => some (.failed code message)
  | _ => none

namespace Poll

def told (t : Poll) (r : Reply) : Totals :=
  match r with
  | .ok response =>
    { generation := t.generation
      status := statusOf r
      hits := (countIn? response "numberOfHits").elim .null .int
      docs := (countIn? response "numberOfDocs").elim .null .int
      retrieved := retrievedIn t.operation response
      pageSize := t.pageSize
      stillCounting := isCounting response
      message := none }
  | .error (.busy message) =>
    ⟨t.generation, statusOf r, .null, .null, 0, t.pageSize, false, some message⟩
  | .error (.failed code message) =>
    ⟨t.generation, statusOf r, .null, .null, 0, t.pageSize, false, some s!"{code}: {message}"⟩

def heard (t : Poll) (r : Reply) : List PollEvent :=
  (errorOf? r).toList.map .error ++ [.update (t.told r)]

/-- All that is heard of a poll that asks from a moment on and gets these replies. -/
def course (t : Poll) (interval now : Nat) : List Planned → List (Nat × PollEvent)
  | [] => []
  | p :: rest =>
    (now, .fetch t.operation t.request) :: (t.heard p.reply).map (now + p.delay, ·) ++
      t.course interval (now + p.delay + interval) rest

end Poll

section Reply

variable {t : Poll} {r : Reply} {response : Json}

theorem statusOf_told (t : Poll) (r : Reply) : (t.told r).status = statusOf r := by
  match r with
  | .ok response => rfl
  | .error (.busy message) => rfl
  | .error (.failed code message) => rfl

theorem pageSize_told (t : Poll) (r : Reply) : (t.told r).pageSize = t.pageSize := by
  match r with
  | .ok response => rfl
  | .error (.busy message) => rfl
  | .error (.failed code message) => rfl

theorem told_phase (t : Poll) (phase : Phase) (r : Reply) :
    Poll.told { t with phase } r = t.told r := by
  match r with
  | .ok response => rfl
  | .error (.busy message) => rfl
  | .error (.failed code message) => rfl

theorem objectAt_of_objectIn {summary : Json} (found : response.objectIn "summary" = .ok summary) :
    response.objectAt "summary" = summary := by
  unfold Json.objectIn at found
  split at found
  · next members _ shape =>
    cases found
    exact shape
  · cases found

theorem get?_count (summary : IsSummary response) {name : String} (count : name ∈ countNames) :
    (response.objectAt "summary").get? name = (countIn? response name).map .int := by
  obtain ⟨summary, found, counts⟩ := summary
  have here := objectAt_of_objectIn found
  rw [countIn?, here]
  cases value : summary.get? name with
  | none => rfl
  | some v =>
    obtain ⟨n, rfl⟩ := counts name count v value
    rfl

theorem countOrZero_int (count : Option Int) :
    Json.countOrZero (count.map .int) = .ok (count.getD 0) := by
  cases count with
  | none => rfl
  | some n =>
    rw [Option.map_some, Json.countOrZero]
    by_cases zero : n = 0
    · rw [zero]
      rfl
    · rw [if_pos (by simpa [Json.truthy] using zero)]
      rfl

theorem ofResponse_told (t : Poll) (summary : IsSummary response) :
    Totals.ofResponse t.generation t.operation response t.pageSize =
      .ok (t.told (.ok response)) := by
  have count (name : String) (member : name ∈ countNames) := get?_count summary member
  obtain ⟨object, found, -⟩ := summary
  have here := objectAt_of_objectIn found
  rw [here] at count
  have retrieved : Json.countOrZero (Totals.retrieved? t.operation object) =
      .ok (retrievedIn t.operation response) := by
    rw [Totals.retrieved?, retrievedIn]
    split
    · rw [count "numberOfHitsRetrieved" (by decide), count "numberOfHits" (by decide),
        ← Option.map_or, countOrZero_int]
    · rw [count "numberOfDocsRetrieved" (by decide), count "numberOfDocs" (by decide),
        ← Option.map_or, countOrZero_int]
  have given (name : String) (member : name ∈ countNames) : (object.get? name).getD .null =
      (countIn? response name).elim .null .int := by
    rw [count name member]
    cases countIn? response name <;> rfl
  rw [Totals.ofResponse, found, ok_bind, retrieved, ok_bind, given "numberOfHits" (by decide),
    given "numberOfDocs" (by decide), ← here]
  rfl

end Reply

namespace Poller

variable {p : Poller} {t : Poll} {task : Nat} {r : Reply}

theorem errorOf?_of_counting (counting : statusOf r = .polling) : errorOf? r = none := by
  match r with
  | .ok response => rfl
  | .error (.busy message) => cases counting
  | .error (.failed code message) => cases counting

theorem receive_counting (current : t.generation = p.generation) (outcome : IsOutcome r)
    (counting : statusOf r = .polling) : p.receive task t r =
      ({ p.setPhase task .sleeping with status := .polling },
        (t.heard r).map .record ++ [.pause task]) := by
  match r with
  | .ok response =>
    have still : (t.told (.ok response)).stillCounting = true := by
      rw [statusOf] at counting
      split at counting
      · assumption
      · cases counting
    unfold receive
    rw [if_neg (not_not.mpr current)]
    dsimp only
    rw [ofResponse_told t outcome]
    dsimp only
    rw [if_pos still, statusOf_told, counting]
    rfl
  | .error (.busy message) => cases counting
  | .error (.failed code message) => cases counting

theorem receive_last (current : t.generation = p.generation) (outcome : IsOutcome r)
    (ends : statusOf r ≠ .polling) : p.receive task t r =
      ({ p.setPhase task (.ended (.totals (t.told r))) with status := statusOf r },
        (t.heard r).map .record) := by
  unfold receive
  rw [if_neg (not_not.mpr current)]
  match r with
  | .ok response =>
    have done : ¬(t.told (.ok response)).stillCounting = true := by
      intro still
      exact ends (if_pos still)
    dsimp only
    rw [ofResponse_told t outcome]
    dsimp only
    rw [if_neg done, finish, statusOf_told]
    rfl
  | .error (.busy message) => rfl
  | .error (.failed code message) => rfl

/-! ### On course -/

/-- Replies up to the first one that does not go on counting. -/
inductive IsPlan : List Planned → Prop
  | last {p : Planned} (outcome : IsOutcome p.reply) (ends : statusOf p.reply ≠ .polling) :
      IsPlan [p]
  | more {p : Planned} {rest : List Planned} (outcome : IsOutcome p.reply)
      (counting : statusOf p.reply = .polling) (later : IsPlan rest) : IsPlan (p :: rest)

/-- One alarm wakes the task, and no other. It lies ahead. -/
structure Awaited (task : Nat) (run : Rehearsal) (a : Alarm) : Prop where
  waking : run.waking = [a]
  own : a.task = task
  later : run.now ≤ a.due

/-- The next request goes out when the alarm goes off. With the course of all replies that are still
planned for the poll, the log is whole. -/
structure Asking (interval : Nat) (t : Poll) (task : Nat) (whole : List (Nat × PollEvent))
    (run : Rehearsal) (a : Alarm) (plan : List Planned) : Prop extends Awaited task run a where
  stands : a.signal = .start ∧ run.state.polls[task]? = some { t with phase := .created } ∨
    a.signal = .wake ∧ run.state.polls[task]? = some { t with phase := .sleeping }
  planned : IsPlan plan
  script : plan <+: run.script
  log : run.log ++ t.course interval a.due plan = whole

structure Fetching (interval : Nat) (t : Poll) (task : Nat) (whole : List (Nat × PollEvent))
    (run : Rehearsal) (a : Alarm) (p : Planned) (plan : List Planned) : Prop
    extends Awaited task run a where
  stands : run.state.polls[task]? = some { t with phase := .fetching }
  reply : a.signal = .reply p.reply
  planned : IsPlan (p :: plan)
  script : plan <+: run.script
  log : run.log ++ (t.heard p.reply).map (a.due, ·) ++ t.course interval (a.due + interval) plan =
    whole

inductive Stage (interval : Nat) (t : Poll) (task : Nat) (whole : List (Nat × PollEvent))
    (run : Rehearsal) : Prop
  | asking {a : Alarm} {plan : List Planned} (h : Asking interval t task whole run a plan) :
      Stage interval t task whole run
  | fetching {a : Alarm} {p : Planned} {plan : List Planned}
      (h : Fetching interval t task whole run a p plan) : Stage interval t task whole run
  | ended (waking : run.waking = []) (log : run.log = whole) : Stage interval t task whole run

structure OnCourse (interval : Nat) (t : Poll) (task : Nat) (whole : List (Nat × PollEvent))
    (run : Rehearsal) : Prop where
  orderly : Orderly run
  current : run.state.generation = t.generation
  stage : Stage interval t task whole run

section Step

variable {interval : Nat} {whole : List (Nat × PollEvent)} {run : Rehearsal} {a : Alarm}

theorem Stage.awaited (h : Stage interval t task whole run) (member : a ∈ run.waking) :
    Awaited task run a := by
  cases h with
  | asking asking =>
    rw [asking.waking] at member
    rw [List.mem_singleton.mp member]
    exact asking.toAwaited
  | fetching fetching =>
    rw [fetching.waking] at member
    rw [List.mem_singleton.mp member]
    exact fetching.toAwaited
  | ended waking =>
    rw [waking] at member
    cases member

theorem Stage.frame (h : Stage interval t task whole run) {other : Rehearsal}
    (waking : other.waking = run.waking) (now : other.now = run.now)
    (script : other.script = run.script) (log : other.log = run.log)
    (kept : run.waking ≠ [] → other.state.polls[task]? = run.state.polls[task]?) :
    Stage interval t task whole other := by
  have still {a : Alarm} (awaited : Awaited task run a) :
      Awaited task other a ∧ other.state.polls[task]? = run.state.polls[task]? := by
    refine ⟨⟨waking.trans awaited.waking, awaited.own, now ▸ awaited.later⟩, kept ?_⟩
    rw [awaited.waking]
    exact List.cons_ne_nil _ _
  cases h with
  | asking h =>
    obtain ⟨awaited, kept⟩ := still h.toAwaited
    exact .asking ⟨awaited, kept ▸ h.stands, h.planned, script ▸ h.script, log ▸ h.log⟩
  | fetching h =>
    obtain ⟨awaited, kept⟩ := still h.toAwaited
    exact .fetching ⟨awaited, kept ▸ h.stands, h.reply, h.planned, script ▸ h.script, log ▸ h.log⟩
  | ended quiet done => exact .ended (waking.trans quiet) (log.trans done)

theorem OnCourse.fire_cancel (h : OnCourse interval t task whole run) (set : a ∈ run.cancelling) :
    OnCourse interval t task whole (run.fire (work interval) a) := by
  refine ⟨h.orderly.fire_cancel interval set, ?_, ?_⟩
  all_goals
    obtain ⟨q, fired, generation, -, others⟩ := Poller.fire_cancel run interval
      (Run.signal_of_cancelling set).2
    rw [fired]
  · exact generation.trans h.current
  · have due := (h.orderly.cancelled a set).1
    refine h.stage.frame (h.orderly.ticketed.waking_passed set q) (Nat.max_eq_left due) rfl rfl ?_
    intro awaited
    obtain ⟨b, member⟩ := List.exists_mem_of_ne_nil _ awaited
    have own := (h.stage.awaited member).own
    exact others task (own ▸ h.orderly.unawaited a set b member)

theorem Asking.fire {plan : List Planned} (h : Asking interval t task whole run a plan)
    (current : run.state.generation = t.generation) :
    (run.fire (work interval) a).state.generation = t.generation ∧
      Stage interval t task whole (run.fire (work interval) a) := by
  have resumed : run.state.resume a.task a.signal =
      (run.state.setPhase task .fetching, [.ask task t.operation t.request]) := by
    rw [h.own]
    rcases h.stands with ⟨signal, stands⟩ | ⟨signal, stands⟩
    · rw [signal, resume_start stands rfl]
      rfl
    · rw [signal, resume_wake stands rfl, if_pos current.symm]
      rfl
  obtain ⟨p, plan, rfl⟩ : ∃ p others, plan = p :: others := by
    cases h.planned <;> exact ⟨_, _, rfl⟩
  obtain ⟨rest, script⟩ := h.script
  let asked : Rehearsal :=
    { (run.passed (run.state.setPhase task .fetching) a).record (.fetch t.operation t.request) with
      script := run.script.tail }
  have fired : run.fire (work interval) a = asked.answer task p := by
    have first : run.script.headD Run.scriptEnd = p := by rw [← script]; rfl
    rw [Run.fire_eq (w := work interval) resumed, ← first]
    rfl
  have now : asked.now = a.due := Nat.max_eq_right h.later
  obtain ⟨ticket, waking⟩ := asked.waking_answer (Run.waking_passed h.waking asked.state) task p
  obtain ⟨state, still, left, said⟩ := asked.answer_frame task p
  rw [fired, state]
  refine ⟨current, .fetching (p := p) ⟨⟨waking, rfl, ?_⟩, ?_, rfl, h.planned, ?_, ?_⟩⟩
  · rw [still]
    exact Nat.le_add_right _ _
  · rw [state]
    change (run.state.setPhase task .fetching).polls[task]? = _
    rw [polls_setPhase]
    rcases h.stands with ⟨-, stands⟩ | ⟨-, stands⟩ <;> simp [stands]
  · rw [left]
    exact ⟨rest, congrArg List.tail script⟩
  · rw [said, ← h.log, now]
    change run.log ++ [(max run.now a.due, PollEvent.fetch t.operation t.request)] ++ _ ++ _ = _
    rw [Nat.max_eq_right h.later, Poll.course]
    simp

theorem Fetching.fire {p : Planned} {plan : List Planned}
    (h : Fetching interval t task whole run a p plan)
    (current : run.state.generation = t.generation) :
    (run.fire (work interval) a).state.generation = t.generation ∧
      Stage interval t task whole (run.fire (work interval) a) := by
  have received : run.state.resume a.task a.signal =
      run.state.receive task { t with phase := .fetching } p.reply := by
    rw [h.own, h.reply, resume_reply h.stands rfl]
  have heard (r : Reply) : Poll.heard { t with phase := .fetching } r = t.heard r := by
    rw [Poll.heard, told_phase]
    rfl
  have now (state : Poller) : (run.passed state a).now = a.due := Nat.max_eq_right h.later
  have quiet (state : Poller) : (run.passed state a).waking = [] := Run.waking_passed h.waking state
  cases h.planned with
  | last outcome ends =>
    rw [receive_last (t := { t with phase := .fetching }) current.symm outcome ends, heard]
      at received
    have fired := Run.fire_eq (w := work interval) received
    rw [Run.performAll_record, now] at fired
    rw [fired]
    refine ⟨current, .ended (quiet run.state) ?_⟩
    rw [← h.log, Poll.course, List.append_nil]
    rfl
  | more outcome counting later =>
    rw [receive_counting (t := { t with phase := .fetching }) current.symm outcome counting, heard]
      at received
    let told : Rehearsal :=
      { run.passed { run.state.setPhase task .sleeping with status := .polling } a with
        now := a.due
        log := run.log ++ (t.heard p.reply).map (a.due, ·) }
    have fired : run.fire (work interval) a = told.set interval task .wake := by
      rw [Run.fire_eq (w := work interval) received, Run.performAll_append,
        Run.performAll_record, now]
      rfl
    have waking : (told.set interval task .wake).waking =
        [⟨a.due + interval, told.ticket, task, .wake⟩] := by
      rw [Run.waking_set _ _ _ _ rfl]
      exact congrArg (· ++ _) (quiet told.state)
    rw [fired]
    refine ⟨current, .asking ⟨⟨waking, rfl, ?_⟩, .inr ⟨rfl, ?_⟩, later, h.script, h.log⟩⟩
    · exact Nat.le_add_right _ _
    · change (run.state.setPhase task .sleeping).polls[task]? = _
      rw [polls_setPhase, h.stands]
      simp

theorem OnCourse.fire (h : OnCourse interval t task whole run) (set : a ∈ run.alarms) :
    OnCourse interval t task whole (run.fire (work interval) a) := by
  rcases Run.waking_or_cancelling set with wakes | cancels
  · have orderly := h.orderly.fire_waking interval wakes
    cases h.stage with
    | asking stage =>
      rw [stage.waking] at wakes
      cases List.mem_singleton.mp wakes
      obtain ⟨current, next⟩ := stage.fire h.current
      exact ⟨orderly, current, next⟩
    | fetching stage =>
      rw [stage.waking] at wakes
      cases List.mem_singleton.mp wakes
      obtain ⟨current, next⟩ := stage.fire h.current
      exact ⟨orderly, current, next⟩
    | ended quiet _ =>
      rw [quiet] at wakes
      cases wakes
  · exact h.fire_cancel cancels

end Step

/-! ### The end of a run -/

theorem weight_ask (p : Poller) (task : Nat) (t : Poll) :
    ((p.ask task t).2.map Effect.weight).sum = 1 := rfl

theorem weight_receive (p : Poller) (task : Nat) (t : Poll) (r : Reply) :
    ((p.receive task t r).2.map Effect.weight).sum < (Signal.reply r).weight := by
  unfold receive
  split
  · exact Signal.weight_pos _
  · match r with
    | .error (.busy message) => exact Signal.weight_pos _
    | .error (.failed code message) => exact Signal.weight_pos _
    | .ok response =>
      dsimp only
      split
      · exact Signal.weight_pos _
      · split
        · exact Nat.lt_succ_self 2
        · exact Signal.weight_pos _

theorem weight_resume (p : Poller) (task : Nat) (s : Signal) :
    ((p.resume task s).2.map Effect.weight).sum < s.weight := by
  rw [resume]
  cases p.polls[task]? with
  | none => exact Signal.weight_pos _
  | some t =>
    dsimp only
    split
    · exact Signal.weight_pos _
    · exact Nat.zero_lt_one
    · rw [weight_ask]
      exact Nat.succ_lt_succ (Nat.succ_pos 1)
    · next r _ => exact weight_receive p task t r
    · split
      · rw [weight_ask]
        exact Nat.lt_succ_self 1
      · exact Nat.succ_pos 1
    · exact Signal.weight_pos _

section Run

variable {interval : Nat} {whole : List (Nat × PollEvent)} {run : Rehearsal} {plan : List Planned}

theorem OnCourse.finish (h : OnCourse interval t task whole run) :
    (run.finish (work interval)).log = whole ∧ (run.finish (work interval)).alarms = [] := by
  have quiet : (run.finish (work interval)).alarms = [] :=
    Run.alarms_finish (w := work interval) weight_resume run
  have ended : OnCourse interval t task whole (run.finish (work interval)) :=
    Run.settle_induction (fun _ _ before set => before.fire set) (fun _ => false) run.fuel h
  refine ⟨?_, quiet⟩
  have unawaited : (run.finish (work interval)).waking = [] := by
    rw [Run.waking, quiet]
    rfl
  cases ended.stage with
  | asking asking => exact absurd (asking.waking.symm.trans unawaited) (List.cons_ne_nil _ _)
  | fetching fetching => exact absurd (fetching.waking.symm.trans unawaited) (List.cons_ne_nil _ _)
  | ended _ log => exact log

theorem stop_frame (run : Rehearsal) (interval : Nat) :
    (run.performAll (work interval) run.state.stop).log = run.log ∧
      (run.performAll (work interval) run.state.stop).now = run.now ∧
      (run.performAll (work interval) run.state.stop).script = run.script := by
  rw [stop]
  cases run.state.polls.getLast? with
  | none => exact ⟨rfl, rfl, rfl⟩
  | some t =>
    dsimp only
    split <;> exact ⟨rfl, rfl, rfl⟩

theorem Orderly.exists_onCourse (h : Orderly run) (interval : Nat) (operation : String)
    {params : Request} {size : Int} (sized : pageSize params = .ok size) (planned : IsPlan plan)
    (script : plan <+: run.script) : ∃ begun,
      Rehearsal.act interval run (.submit operation params) = .ok begun ∧
        let t : Poll :=
          ⟨run.state.generation + 1, operation, countRequest params, size, .created⟩
        OnCourse interval t run.state.polls.length
          (run.log ++ (run.now, .submitted t.generation) :: t.course interval run.now plan)
          begun := by
  let t : Poll := ⟨run.state.generation + 1, operation, countRequest params, size, .created⟩
  let stopped := run.performAll (work interval) run.state.stop
  let begun := ((stopped.become (run.state.launch operation params size).1).set 0
    run.state.polls.length .start).record (.submitted (run.state.generation + 1))
  obtain ⟨log, now, left⟩ := stop_frame run interval
  have quiet : stopped.waking = [] := (h.quiet_stop interval).waking
  have waking : begun.waking = [⟨stopped.now, stopped.ticket, run.state.polls.length, .start⟩] := by
    change ((stopped.become _).set 0 run.state.polls.length .start).waking = _
    rw [Run.waking_set _ _ _ _ rfl]
    exact congrArg (· ++ _) quiet
  have whole : begun.log ++ t.course interval stopped.now plan =
      run.log ++ (run.now, .submitted t.generation) :: t.course interval run.now plan := by
    change stopped.log ++ [(stopped.now, PollEvent.submitted t.generation)] ++ _ = _
    rw [log, now, List.append_assoc]
    rfl
  refine ⟨begun, act_submit run interval operation sized, h.submit interval operation params size,
    rfl, .asking ⟨⟨waking, rfl, Nat.le_refl _⟩, .inl ⟨rfl, ?_⟩, planned, ?_, whole⟩⟩
  · exact List.getElem?_concat_length
  · exact left.symm ▸ script

end Run

end Poller

end Concordance.Backend
