import Concordance.Backend.Rehearsal
import Concordance.Proofs.Except
import Concordance.Proofs.Backend.Clock

/-! What every run of the poller keeps, whatever is submitted or stopped, and in whatever order
alarms go off. Only the task of the last submission is waited for; whatever else is on its way is a
cancellation, and takes no time. -/

namespace Concordance.Backend

def Phase.Awaits : Phase → Signal → Prop
  | created, .start | sleeping, .wake | fetching, .reply _ => True
  | _, _ => False

namespace Poller

/-- What can happen to a poller. Time may pass at will. -/
inductive Reached (interval : Nat) : Rehearsal → Prop
  | start (script : List Planned) : Reached interval (.start idle script)
  | wait {run : Rehearsal} {now ticket : Nat} (before : Reached interval run)
      (later : run.now ≤ now) (ticketed : run.ticket ≤ ticket) :
      Reached interval { run with now, ticket }
  | act {run next : Rehearsal} {action : Action} (before : Reached interval run)
      (acted : Rehearsal.act interval run action = .ok next) : Reached interval next
  | fire {run : Rehearsal} {a : Alarm} (before : Reached interval run) (set : a ∈ run.alarms) :
      Reached interval (run.fire (work interval) a)

/-- The alarm that the last task waits for, if any; there is no other. -/
inductive Attended (polls : List Poll) : List Alarm → Prop
  | idle : Attended polls []
  | awaited {t : Poll} {a : Alarm} (stands : polls[a.task]? = some t)
      (last : a.task + 1 = polls.length) (awaits : t.phase.Awaits a.signal) : Attended polls [a]

/-- Nothing is waited for, and what is cancelled comes before the task. -/
structure Quiet (task : Nat) (run : Rehearsal) : Prop where
  waking : run.waking = []
  cancelled : ∀ a ∈ run.cancelling, a.due ≤ run.now ∧ a.task < task
  ticketed : run.Ticketed

structure Orderly (run : Rehearsal) : Prop where
  attended : Attended run.state.polls run.waking
  cancelled : ∀ a ∈ run.cancelling, a.due ≤ run.now ∧ a.task < run.state.polls.length
  unawaited : ∀ a ∈ run.cancelling, ∀ b ∈ run.waking, a.task ≠ b.task
  ticketed : run.Ticketed

inductive Asks (task : Nat) : Phase → Effects → Prop
  | nothing {phase : Phase} {effects : Effects} (told : ∀ e ∈ effects, ∃ event, e = .record event) :
      Asks task phase effects
  | pause (event : PollEvent) : Asks task .sleeping [.record event, .pause task]
  | reply (operation : String) (request : Request) :
      Asks task .fetching [.ask task operation request]

section Step

variable {p : Poller} {t : Poll} {task : Nat} {s : Signal}

theorem isCancel_of_awaits (awaits : t.phase.Awaits s) : s.isCancel = false := by
  cases s with
  | cancel => cases phase : t.phase <;> rw [phase] at awaits <;> exact awaits.elim
  | _ => rfl

theorem isLive_of_awaits (awaits : t.phase.Awaits s) : t.phase.isLive := by
  cases phase : t.phase with
  | ended outcome => rw [phase] at awaits; cases s <;> exact awaits.elim
  | _ => rfl

theorem polls_setPhase (p : Poller) (task : Nat) (phase : Phase) (i : Nat) :
    (p.setPhase task phase).polls[i]? =
      p.polls[i]?.map fun t => if task = i then { t with phase } else t :=
  List.getElem?_modify _ _ _ _

theorem length_setPhase (p : Poller) (task : Nat) (phase : Phase) :
    (p.setPhase task phase).polls.length = p.polls.length :=
  List.length_modify _ _ _

theorem resume_cancel (p : Poller) (task : Nat) : ∃ q, p.resume task .cancel = (q, []) ∧
    q.generation = p.generation ∧ q.polls.length = p.polls.length ∧
      ∀ i, task ≠ i → q.polls[i]? = p.polls[i]? := by
  have ended : ∃ q, (p.setPhase task (.ended .cancelled), ([] : Effects)) = (q, []) ∧
      q.generation = p.generation ∧ q.polls.length = p.polls.length ∧
        ∀ i, task ≠ i → q.polls[i]? = p.polls[i]? := by
    refine ⟨_, rfl, rfl, length_setPhase p task _, fun i other => ?_⟩
    rw [polls_setPhase]
    simp [other]
  rw [resume]
  cases p.polls[task]? with
  | none => exact ⟨p, rfl, rfl, rfl, fun _ _ => rfl⟩
  | some t =>
    obtain ⟨generation, operation, request, size, phase⟩ := t
    cases phase with
    | ended outcome => exact ⟨p, rfl, rfl, rfl, fun _ _ => rfl⟩
    | _ => exact ended

theorem resume_start (stands : p.polls[task]? = some t) (created : t.phase = .created) :
    p.resume task .start = p.ask task t := by
  rw [resume, stands]
  dsimp only
  rw [created]

theorem resume_reply (stands : p.polls[task]? = some t) (fetching : t.phase = .fetching)
    (r : Reply) : p.resume task (.reply r) = p.receive task t r := by
  rw [resume, stands]
  dsimp only
  rw [fetching]

theorem resume_wake (stands : p.polls[task]? = some t) (sleeping : t.phase = .sleeping) :
    p.resume task .wake =
      if t.generation = p.generation then p.ask task t else p.drop task t.generation := by
  rw [resume, stands]
  dsimp only
  rw [sleeping]

def Comes (p : Poller) (task : Nat) (step : Poller × Effects) : Prop :=
  ∃ phase, step.1.polls = (p.setPhase task phase).polls ∧ Asks task phase step.2

theorem comes_ask (p : Poller) (task : Nat) (t : Poll) : p.Comes task (p.ask task t) :=
  ⟨.fetching, rfl, .reply _ _⟩

theorem comes_drop (p : Poller) (task generation : Nat) : p.Comes task (p.drop task generation) :=
  ⟨_, rfl, .nothing nofun⟩

theorem comes_finish (p : Poller) (task : Nat) (totals : Totals) :
    p.Comes task (p.finish task totals) :=
  ⟨_, rfl, .nothing (List.forall_mem_singleton.mpr ⟨_, rfl⟩)⟩

theorem comes_receive (p : Poller) (task : Nat) (t : Poll) (r : Reply) :
    p.Comes task (p.receive task t r) := by
  unfold receive
  split
  · exact comes_drop p task _
  · match r with
    | .error (.busy m) => exact comes_finish p task _
    | .error (.failed c m) =>
      refine ⟨_, rfl, .nothing (List.forall_mem_cons.mpr ⟨⟨_, rfl⟩, ?_⟩)⟩
      exact List.forall_mem_singleton.mpr ⟨_, rfl⟩
    | .ok response =>
      dsimp only
      cases Totals.ofResponse t.generation t.operation response t.pageSize with
      | error e => exact ⟨_, rfl, .nothing nofun⟩
      | ok totals =>
        dsimp only
        split
        · exact ⟨.sleeping, rfl, .pause _⟩
        · exact comes_finish p task totals

theorem comes_resume (stands : p.polls[task]? = some t) (awaits : t.phase.Awaits s) :
    p.Comes task (p.resume task s) := by
  match phase : t.phase, s, awaits with
  | .created, .start, _ =>
    rw [resume_start stands phase]
    exact comes_ask p task t
  | .fetching, .reply r, _ =>
    rw [resume_reply stands phase]
    exact comes_receive p task t r
  | .sleeping, .wake, _ =>
    rw [resume_wake stands phase]
    split
    · exact comes_ask p task t
    · exact comes_drop p task _

end Step

section Runs

variable {run : Rehearsal} {a : Alarm} {t : Poll} {task : Nat} {interval : Nat}

/-! ### Setting alarms -/

theorem Quiet.await {before : Rehearsal} (h : Quiet task before) {due ticket : Nat} {s : Signal}
    (waking : run.waking = [⟨due, ticket, task, s⟩])
    (cancelling : run.cancelling = before.cancelling) (now : run.now = before.now)
    (ticketed : run.Ticketed)
    (stands : run.state.polls[task]? = some t) (last : task + 1 = run.state.polls.length)
    (awaits : t.phase.Awaits s) : Orderly run where
  attended := by
    rw [waking]
    exact .awaited stands last awaits
  cancelled := by
    rw [cancelling, now]
    intro b member
    obtain ⟨due, earlier⟩ := h.cancelled b member
    exact ⟨due, by omega⟩
  unawaited := by
    rw [cancelling, waking]
    intro b member c only
    rw [List.mem_singleton.mp only]
    exact Nat.ne_of_lt (h.cancelled b member).2
  ticketed := ticketed

theorem Quiet.orderly (h : Quiet task run) (enough : task ≤ run.state.polls.length) :
    Orderly run where
  attended := by
    rw [h.waking]
    exact .idle
  cancelled := fun b member =>
    ⟨(h.cancelled b member).1, Nat.lt_of_lt_of_le (h.cancelled b member).2 enough⟩
  unawaited := by
    rw [h.waking]
    exact fun _ _ => nofun
  ticketed := h.ticketed

theorem Quiet.set (h : Quiet task run) (delay : Nat) {s : Signal}
    (stands : run.state.polls[task]? = some t) (last : task + 1 = run.state.polls.length)
    (awaits : t.phase.Awaits s) : Orderly (run.set delay task s) := by
  have wakes := isCancel_of_awaits awaits
  have waking : (run.set delay task s).waking = [⟨run.now + delay, run.ticket, task, s⟩] := by
    rw [Run.waking_set _ _ _ _ wakes, h.waking, List.nil_append]
  exact h.await waking (run.cancelling_set delay task s wakes) rfl (h.ticketed.set _ _ _) stands
    last awaits

theorem Quiet.answer (h : Quiet task run) (p : Planned)
    (stands : run.state.polls[task]? = some t) (last : task + 1 = run.state.polls.length)
    (fetching : t.phase = .fetching) : Orderly (run.answer task p) := by
  obtain ⟨ticket, waking⟩ := run.waking_answer h.waking task p
  obtain ⟨state, now, -, -⟩ := run.answer_frame task p
  have awaits : t.phase.Awaits (.reply p.reply) := by
    rw [fetching]
    trivial
  exact h.await waking (run.cancelling_answer task p) now (h.ticketed.answer h.waking task p)
    (state.symm ▸ stands) (state.symm ▸ last) awaits

theorem Quiet.frame (h : Quiet task run) {other : Rehearsal} (alarms : other.alarms = run.alarms)
    (now : run.now ≤ other.now) (ticket : run.ticket ≤ other.ticket) : Quiet task other where
  waking := by
    rw [Run.waking, alarms]
    exact h.waking
  cancelled := by
    rw [Run.cancelling, alarms]
    exact fun b member => ⟨(h.cancelled b member).1.trans now, (h.cancelled b member).2⟩
  ticketed := h.ticketed.sublist (alarms ▸ List.Sublist.refl _) ticket

theorem Orderly.frame (h : Orderly run) {other : Rehearsal} (alarms : other.alarms = run.alarms)
    (polls : other.state.polls = run.state.polls) (now : run.now ≤ other.now)
    (ticket : run.ticket ≤ other.ticket) : Orderly other where
  attended := by
    rw [Run.waking, alarms, polls]
    exact h.attended
  cancelled := by
    rw [Run.cancelling, alarms, polls]
    exact fun b member => ⟨(h.cancelled b member).1.trans now, (h.cancelled b member).2⟩
  unawaited := by
    rw [Run.cancelling, Run.waking, alarms]
    exact h.unawaited
  ticketed := h.ticketed.sublist (alarms ▸ List.Sublist.refl _) ticket

theorem Quiet.asks (h : Quiet task run) (interval : Nat) {effects : Effects}
    (stands : run.state.polls[task]? = some t) (last : task + 1 = run.state.polls.length)
    (asks : Asks task t.phase effects) : Orderly (run.performAll (work interval) effects) := by
  generalize phase : t.phase = asked at asks
  cases asks with
  | nothing told =>
    obtain ⟨alarms, ticket⟩ := Run.alarms_performAll (w := work interval) run told
    have state := Run.state_performAll (w := work interval) run effects
    have now := Run.now_performAll (w := work interval) run effects
    refine (h.orderly ?_).frame alarms (congrArg polls state) (Nat.le_of_eq now.symm)
      (Nat.le_of_eq ticket.symm)
    omega
  | pause event =>
    have recorded : Quiet task (run.record event) :=
      h.frame rfl (Nat.le_refl _) (Nat.le_refl _)
    refine recorded.set interval stands last ?_
    rw [phase]
    trivial
  | reply operation request =>
    have asked : Quiet task
        { run.record (.fetch operation request) with script := run.script.tail } :=
      h.frame rfl (Nat.le_refl _) (Nat.le_refl _)
    exact asked.answer _ stands last phase

/-! ### What can happen -/

theorem Attended.of_mem {polls : List Poll} {alarms : List Alarm} (h : Attended polls alarms)
    (member : a ∈ alarms) : alarms = [a] ∧ a.task + 1 = polls.length ∧
      ∃ t, polls[a.task]? = some t ∧ t.phase.Awaits a.signal := by
  cases h with
  | idle => cases member
  | awaited stands last awaits =>
    rw [List.mem_singleton.mp member]
    exact ⟨rfl, last, _, stands, awaits⟩

theorem Attended.frame {ps qs : List Poll} {alarms : List Alarm} (h : Attended ps alarms)
    (length : qs.length = ps.length) (kept : ∀ a ∈ alarms, qs[a.task]? = ps[a.task]?) :
    Attended qs alarms := by
  cases h with
  | idle => exact .idle
  | awaited stands last awaits =>
    exact .awaited ((kept _ List.mem_cons_self).trans stands) (last.trans length.symm) awaits

theorem Orderly.quiet_stop (h : Orderly run) (interval : Nat) :
    Quiet run.state.polls.length (run.performAll (work interval) run.state.stop) := by
  have awaited (b : Alarm) (member : b ∈ run.waking) : b.task + 1 = run.state.polls.length ∧
      ∃ t, run.state.polls.getLast? = some t ∧ t.phase.isLive := by
    obtain ⟨-, last, t, stands, awaits⟩ := h.attended.of_mem member
    refine ⟨last, t, ?_, isLive_of_awaits awaits⟩
    rw [List.getLast?_eq_getElem?, ← last, Nat.add_sub_cancel, stands]
  have idle (unlive : ∀ t, run.state.polls.getLast? = some t → t.phase.isLive = false) :
      Quiet run.state.polls.length run := by
    refine ⟨List.eq_nil_iff_forall_not_mem.mpr fun b member => ?_, h.cancelled, h.ticketed⟩
    obtain ⟨-, t, found, live⟩ := awaited b member
    rw [unlive t found] at live
    cases live
  rw [stop]
  cases found : run.state.polls.getLast? with
  | none => exact idle (by simp [found])
  | some t =>
    dsimp only
    cases live : t.phase.isLive with
    | false => exact idle (by simp [found, live])
    | true =>
      have some_task : 0 < run.state.polls.length :=
        List.length_pos_of_mem (List.mem_of_getLast? found)
      rw [if_pos rfl]
      change Quiet _ (run.perform (work interval) (.cancel (run.state.polls.length - 1)))
      refine ⟨Run.waking_cancel fun b member => ?_, fun b member => ?_, h.ticketed.cancel _⟩
      · have last := (awaited b member).1
        omega
      · rcases Run.of_mem_cancelling_cancel member with old | ⟨due, last⟩
        · exact h.cancelled b old
        · refine ⟨Nat.le_of_eq due, ?_⟩
          omega

theorem act_submit (run : Rehearsal) (interval : Nat) (operation : String) {params : Request}
    {size : Int} (sized : pageSize params = .ok size) :
    Rehearsal.act interval run (.submit operation params) =
      .ok ((((run.performAll (work interval) run.state.stop).become
        (run.state.launch operation params size).1).set 0 run.state.polls.length .start).record
          (.submitted (run.state.generation + 1))) := by
  have submitted : run.state.submit operation params =
      .ok (run.state.launch operation params size) := by
    rw [submit, sized]
    rfl
  rw [Rehearsal.act, submitted, ← Run.performAll_become]
  change Except.ok _ = Except.ok _
  rw [Rehearsal.apply, launch, Run.performAll_append]
  rfl

theorem Orderly.submit (h : Orderly run) (interval : Nat) (operation : String) (params : Request)
    (size : Int) : Orderly ((((run.performAll (work interval) run.state.stop).become
        (run.state.launch operation params size).1).set 0 run.state.polls.length .start).record
          (.submitted (run.state.generation + 1))) := by
  let next := (run.performAll (work interval) run.state.stop).become
    (run.state.launch operation params size).1
  have quiet : Quiet run.state.polls.length next :=
    (h.quiet_stop interval).frame rfl (Nat.le_refl _) (Nat.le_refl _)
  have last : run.state.polls.length + 1 = next.state.polls.length := by
    simp [next, Run.become, launch]
  have begun := quiet.set (s := .start) 0 List.getElem?_concat_length last trivial
  exact begun.frame rfl rfl (Nat.le_refl _) (Nat.le_refl _)

theorem Orderly.act (h : Orderly run) {action : Action} {next : Rehearsal}
    (acted : Rehearsal.act interval run action = .ok next) : Orderly next := by
  cases action with
  | submit operation params =>
    cases sized : pageSize params with
    | error e =>
      rw [Rehearsal.act, Poller.submit, sized] at acted
      cases acted
    | ok size =>
      rw [act_submit run interval operation sized] at acted
      cases acted
      exact h.submit interval operation params size
  | stop =>
    cases acted
    have state := Run.state_performAll (w := work interval) run run.state.stop
    have stopped : Orderly (run.performAll (work interval) run.state.stop) :=
      (h.quiet_stop interval).orderly (Nat.le_of_eq (congrArg (·.polls.length) state).symm)
    exact stopped.frame rfl rfl (Nat.le_refl _) (Nat.le_refl _)
  | advance =>
    cases acted
    exact h.frame rfl rfl (Nat.le_refl _) (Nat.le_refl _)
  | status =>
    cases acted
    exact h.frame rfl rfl (Nat.le_refl _) (Nat.le_refl _)

theorem Orderly.quiet_passed (h : Orderly run) (only : run.waking = [a]) (state : Poller) :
    Quiet a.task (run.passed state a) := by
  refine ⟨Run.waking_passed only state, fun b member => ?_, h.ticketed.passed state a⟩
  have old := (run.cancelling_passed state a).subset member
  obtain ⟨due, bound⟩ := h.cancelled b old
  have awaited : a ∈ run.waking := by simp [only]
  have other := h.unawaited b old a awaited
  have last := (h.attended.of_mem awaited).2.1
  refine ⟨due.trans (Nat.le_max_left _ _), ?_⟩
  omega

theorem fire_cancel (run : Rehearsal) (interval : Nat) (cancel : a.signal = .cancel) : ∃ q,
    run.fire (work interval) a = run.passed q a ∧ q.generation = run.state.generation ∧
      q.polls.length = run.state.polls.length ∧
      ∀ i, a.task ≠ i → q.polls[i]? = run.state.polls[i]? := by
  obtain ⟨q, resumed, rest⟩ := resume_cancel run.state a.task
  refine ⟨q, ?_, rest⟩
  rw [← cancel] at resumed
  exact Run.fire_eq (w := work interval) resumed

theorem Orderly.fire_cancel (h : Orderly run) (interval : Nat) (set : a ∈ run.cancelling) :
    Orderly (run.fire (work interval) a) := by
  obtain ⟨q, fired, -, length, others⟩ := Poller.fire_cancel run interval
    (Run.signal_of_cancelling set).2
  have waking := h.ticketed.waking_passed set q
  have cancelling := (run.cancelling_passed q a).subset
  rw [fired]
  refine ⟨?_, ?_, ?_, h.ticketed.passed q a⟩
  · rw [waking]
    exact h.attended.frame length fun b member => others b.task (h.unawaited a set b member)
  · intro b member
    obtain ⟨due, bound⟩ := h.cancelled b (cancelling member)
    exact ⟨due.trans (Nat.le_max_left _ _), length.symm ▸ bound⟩
  · rw [waking]
    exact fun b member => h.unawaited b (cancelling member)

theorem Orderly.fire_waking (h : Orderly run) (interval : Nat) (member : a ∈ run.waking) :
    Orderly (run.fire (work interval) a) := by
  obtain ⟨only, last, t, stands, awaits⟩ := h.attended.of_mem member
  obtain ⟨phase, polls, asks⟩ := comes_resume stands awaits
  have quiet := h.quiet_passed only (run.state.resume a.task a.signal).1
  rw [Run.fire_eq rfl]
  refine quiet.asks interval (t := { t with phase }) ?_ ?_ asks
  · change (run.state.resume a.task a.signal).1.polls[a.task]? = _
    rw [polls, polls_setPhase, stands]
    simp
  · change _ = (run.state.resume a.task a.signal).1.polls.length
    rw [polls, length_setPhase, last]

theorem Orderly.fire (h : Orderly run) (interval : Nat) (set : a ∈ run.alarms) :
    Orderly (run.fire (work interval) a) := by
  rcases Run.waking_or_cancelling set with wakes | cancels
  · exact h.fire_waking interval wakes
  · exact h.fire_cancel interval cancels

theorem orderly_start (script : List Planned) : Orderly (.start idle script) :=
  ⟨.idle, nofun, nofun, Run.ticketed_start _ _⟩

theorem Reached.orderly (reached : Reached interval run) : Orderly run := by
  induction reached with
  | start script => exact orderly_start script
  | wait _ later ticketed ih => exact ih.frame rfl rfl later ticketed
  | act _ acted ih => exact ih.act acted
  | fire _ set ih => exact ih.fire interval set

/-! ### Rehearsals -/

theorem Reached.actAll (reached : Reached interval run) {actions : List (Nat × Action)}
    {last : Rehearsal} (acted : Rehearsal.actAll interval actions run = .ok last) :
    Reached interval last := by
  induction actions generalizing run with
  | nil =>
    cases acted
    exact reached
  | cons action actions ih =>
    rw [Rehearsal.actAll] at acted
    obtain ⟨next, first, rest⟩ := bind_eq_ok.mp acted
    refine ih (.act ?_ first) rest
    split
    · exact Run.waitUntil_induction (fun _ _ before set => before.fire set)
        (fun _ _ _ before later ticketed => before.wait later ticketed) action.1 reached
    · exact reached

end Runs

end Poller

end Concordance.Backend
