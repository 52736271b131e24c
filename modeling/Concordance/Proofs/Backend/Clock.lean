import Mathlib.Algebra.Order.BigOperators.Group.List
import Mathlib.Algebra.Order.Ring.Nat
import Mathlib.Data.List.Nodup
import Concordance.Backend.Clock

/-! Runs on the virtual clock, of any kind of work: what an alarm does, and what is kept by waiting.
A run that is waited for to the end has no alarm left, if each alarm lowers a measure of what is
still to come. -/

namespace Concordance.Backend

variable {σ ε : Type}

def Effect.event? (fetched : String → Request → ε) : Effect ε → Option ε
  | record event => some event
  | ask _ operation request => some (fetched operation request)
  | pause _ | spawn _ | cancel _ => none

def Signal.isCancel : Signal → Bool
  | cancel => true
  | _ => false

/-- How many alarms a signal can still lead to, itself included. A response may be followed by a
pause, an error may not. -/
def Signal.weight : Signal → Nat
  | start | reply (.ok _) => 3
  | wake => 2
  | reply (.error _) | cancel => 1

def Effect.weight : Effect ε → Nat
  | spawn _ => Signal.start.weight
  | pause _ => Signal.wake.weight
  | ask _ _ _ | cancel _ => 1
  | record _ => 0

/-- Each step asks for less than the signal that woke the task. -/
def Work.Tires (w : Work σ ε) : Prop :=
  ∀ state task s, ((w.resume state task s).2.map Effect.weight).sum < s.weight

theorem Signal.weight_pos (s : Signal) : 0 < s.weight := by
  cases s with
  | reply r => cases r <;> exact Nat.succ_pos _
  | _ => exact Nat.succ_pos _

theorem Signal.weight_le (s : Signal) : s.weight ≤ 3 := by
  cases s with
  | reply r => cases r <;> simp [weight]
  | _ => simp [weight]

namespace Run

variable {w : Work σ ε} {run : Run σ ε} {a : Alarm}

/-! ### The first alarm -/

theorem mem_of_foldl {step : Option Alarm → Alarm → Option Alarm}
    (chosen : ∀ best b, step best b = some b ∨ step best b = best) {alarms : List Alarm}
    {best : Option Alarm} (found : alarms.foldl step best = some a) :
    a ∈ alarms ∨ best = some a := by
  induction alarms generalizing best with
  | nil => exact .inr found
  | cons b alarms ih =>
    rcases ih found with later | here
    · exact .inl (List.mem_cons_of_mem b later)
    · rcases chosen best b with new | old
      · exact .inl (Option.some.inj (new.symm.trans here) ▸ List.mem_cons_self)
      · exact .inr (old.symm.trans here)

theorem mem_of_next? (first : run.next? = some a) : a ∈ run.alarms := by
  refine (mem_of_foldl (fun best b => ?_) first).resolve_right (Option.some_ne_none a).symm
  cases best with
  | none => exact .inl rfl
  | some c =>
    dsimp only
    split
    · exact .inl rfl
    · exact .inr rfl

theorem isSome_foldl {step : Option Alarm → Alarm → Option Alarm}
    (kept : ∀ b c, (step (some b) c).isSome) (alarms : List Alarm) {best : Option Alarm}
    (found : best.isSome) : (alarms.foldl step best).isSome := by
  induction alarms generalizing best with
  | nil => exact found
  | cons c alarms ih =>
    obtain ⟨b, rfl⟩ := Option.isSome_iff_exists.mp found
    exact ih (kept b c)

theorem alarms_of_next? (none : run.next? = none) : run.alarms = [] := by
  cases shape : run.alarms with
  | nil => rfl
  | cons b alarms =>
    rw [next?, shape, List.foldl_cons] at none
    refine absurd none (Option.isSome_iff_ne_none.mp (isSome_foldl (fun b c => ?_) alarms rfl))
    dsimp only
    split <;> rfl

/-! ### Waiting -/

section Waiting

variable {P : Run σ ε → Prop}

theorem advance_induction (fired : ∀ run a, P run → a ∈ run.alarms → P (run.fire w a))
    (due ticket fuel : Nat) (before : P run) : P (run.advance w due ticket fuel) := by
  induction fuel generalizing run with
  | zero => exact before
  | succ fuel ih =>
    rw [advance]
    split
    · exact before
    · next a first =>
      split
      · exact ih (fired run a before (mem_of_next? first))
      · exact before

theorem settle_induction (fired : ∀ run a, P run → a ∈ run.alarms → P (run.fire w a))
    (done : σ → Bool) (fuel : Nat) (before : P run) : P (run.settle w done fuel) := by
  induction fuel generalizing run with
  | zero => exact before
  | succ fuel ih =>
    rw [settle]
    split
    · next a _ first => exact ih (fired run a before (mem_of_next? first))
    · exact before

theorem waitUntil_induction (fired : ∀ run a, P run → a ∈ run.alarms → P (run.fire w a))
    (passed : ∀ (run : Run σ ε) (now ticket : Nat), P run → run.now ≤ now → run.ticket ≤ ticket →
      P { run with now, ticket })
    (due : Nat) (before : P run) : P (run.waitUntil w due) := by
  have noted : P { run with ticket := run.ticket + 1 } :=
    passed run run.now (run.ticket + 1) before (Nat.le_refl _) (Nat.le_succ _)
  have later := advance_induction fired due run.ticket
    (fuel { run with ticket := run.ticket + 1 }) noted
  exact passed _ _ _ later (Nat.le_max_left _ _) (Nat.le_refl _)

end Waiting

/-! ### Going off -/

/-- What is left of a run when an alarm has gone off and its task has not yet gone on. -/
def passed (run : Run σ ε) (state : σ) (a : Alarm) : Run σ ε :=
  { run with
    state
    now := max run.now a.due
    alarms := run.alarms.filter fun b => !(b.due == a.due && b.ticket == a.ticket) }

theorem fire_eq {state : σ} {effects : List (Effect ε)}
    (resumed : w.resume run.state a.task a.signal = (state, effects)) :
    run.fire w a = (run.passed state a).performAll w effects := by
  rw [fire, resumed]
  rfl

/-! ### Fuel -/

theorem alarms_settle (measure : Run σ ε → Nat)
    (lower : ∀ run a, a ∈ run.alarms → measure (run.fire w a) < measure run) (fuel : Nat)
    (enough : measure run ≤ fuel) : (run.settle w (fun _ => false) fuel).alarms = [] := by
  induction fuel generalizing run with
  | zero =>
    refine List.eq_nil_iff_forall_not_mem.mpr fun a member => ?_
    exact absurd (lower run a member) (by omega)
  | succ fuel ih =>
    rw [settle]
    cases first : run.next? with
    | none => exact alarms_of_next? first
    | some a =>
      have less := lower run a (mem_of_next? first)
      exact ih (by omega)

def load (alarms : List Alarm) : Nat := (alarms.map (·.signal.weight)).sum

/-- What a run can still lead to. A reply that is not yet on its way counts for two: with the alarm
that asks for it that is as much as a response. -/
def remaining (run : Run σ ε) : Nat := 2 * run.script.length + load run.alarms

theorem load_append (alarms others : List Alarm) :
    load (alarms ++ others) = load alarms + load others := by
  simp [load]

theorem load_filter_le (keeps : Alarm → Bool) (alarms : List Alarm) :
    load (alarms.filter keeps) ≤ load alarms :=
  (List.filter_sublist.map _).sum_le_sum fun _ _ => Nat.zero_le _

theorem load_removed {alarms : List Alarm} {p : Alarm → Bool} (set : a ∈ alarms)
    (gone : p a = false) : load (alarms.filter p) + a.signal.weight ≤ load alarms := by
  obtain ⟨before, after, rfl⟩ := List.append_of_mem set
  have earlier := load_filter_le p before
  have later := load_filter_le p after
  rw [List.filter_append, List.filter_cons_of_neg (by simp [gone]), load_append, load_append]
  change _ ≤ load before + (a.signal.weight + load after)
  omega

theorem load_le (alarms : List Alarm) : load alarms ≤ 3 * alarms.length := by
  induction alarms with
  | nil => exact Nat.le_refl _
  | cons a alarms ih =>
    have first := a.signal.weight_le
    change a.signal.weight + load alarms ≤ 3 * (alarms.length + 1)
    omega

theorem remaining_answer (run : Run σ ε) (task : Nat) (p : Planned) :
    (run.answer task p).remaining = run.remaining + (Signal.reply p.reply).weight := by
  rw [answer]
  split
  · simp only [remaining, load, List.map_cons, List.sum_cons]
    omega
  · simp [remaining, load, set, Nat.add_assoc]

theorem remaining_perform (run : Run σ ε) (e : Effect ε) :
    (run.perform w e).remaining ≤ run.remaining + e.weight := by
  cases e with
  | record event => exact Nat.le_refl _
  | ask task operation request =>
    refine (Nat.le_of_eq (remaining_answer _ _ _)).trans ?_
    cases planned : run.script with
    | nil => simp [remaining, record, planned, scriptEnd, Signal.weight, Effect.weight]
    | cons p script =>
      have most := (Signal.reply p.reply).weight_le
      simp only [remaining, record, planned, List.tail_cons, List.headD_cons, List.length_cons,
        Effect.weight]
      omega
  | pause task => simp [remaining, perform, set, load, Effect.weight, Nat.add_assoc]
  | spawn task => simp [remaining, perform, set, load, Effect.weight, Nat.add_assoc]
  | cancel task =>
    have fewer := load_filter_le (·.task != task) run.alarms
    simp only [remaining, perform, set, load_append, Effect.weight]
    exact Nat.add_le_add_left (Nat.add_le_add_right fewer _) _

theorem remaining_performAll (run : Run σ ε) (effects : List (Effect ε)) :
    (run.performAll w effects).remaining ≤ run.remaining + (effects.map Effect.weight).sum := by
  induction effects generalizing run with
  | nil => exact Nat.le_refl _
  | cons e effects ih =>
    have first := remaining_perform (w := w) run e
    have rest := ih (run.perform w e)
    rw [List.map_cons, List.sum_cons]
    exact rest.trans (by omega)

theorem remaining_fire (tires : w.Tires) (set : a ∈ run.alarms) :
    (run.fire w a).remaining < run.remaining := by
  have removed := load_removed (p := fun b => !(b.due == a.due && b.ticket == a.ticket))
    set (by simp)
  have asked := tires run.state a.task a.signal
  generalize resumed : w.resume run.state a.task a.signal = step at asked
  rw [fire_eq resumed]
  refine (remaining_performAll _ _).trans_lt ?_
  simp only [remaining, passed]
  omega

theorem alarms_finish (tires : w.Tires) (run : Run σ ε) : (run.finish w).alarms = [] := by
  refine alarms_settle remaining (fun run a set => remaining_fire tires set) _ ?_
  have bound := load_le run.alarms
  rw [remaining, fuel]
  omega

/-! ### The log -/

theorem answer_frame (run : Run σ ε) (task : Nat) (p : Planned) :
    (run.answer task p).state = run.state ∧ (run.answer task p).now = run.now ∧
      (run.answer task p).script = run.script ∧ (run.answer task p).log = run.log := by
  rw [answer]
  split <;> exact ⟨rfl, rfl, rfl, rfl⟩

theorem log_perform (run : Run σ ε) (e : Effect ε) :
    (run.perform w e).log = run.log ++ (e.event? w.fetched).toList.map (run.now, ·) ∧
      (run.perform w e).now = run.now := by
  cases e with
  | record event => exact ⟨rfl, rfl⟩
  | ask task operation request =>
    obtain ⟨-, now, -, log⟩ := answer_frame
      { run.record (w.fetched operation request) with script := run.script.tail } task
      (run.script.headD scriptEnd)
    exact ⟨log, now⟩
  | pause task => exact ⟨(List.append_nil _).symm, rfl⟩
  | spawn task => exact ⟨(List.append_nil _).symm, rfl⟩
  | cancel task => exact ⟨(List.append_nil _).symm, rfl⟩

theorem log_performAll (run : Run σ ε) (effects : List (Effect ε)) :
    (run.performAll w effects).log =
      run.log ++ (effects.filterMap (·.event? w.fetched)).map (run.now, ·) := by
  induction effects generalizing run with
  | nil => exact (List.append_nil _).symm
  | cons e effects ih =>
    obtain ⟨log, now⟩ := log_perform (w := w) run e
    have rest := ih (run.perform w e)
    rw [log, now] at rest
    refine rest.trans ?_
    cases event : e.event? w.fetched with
    | none => simp [event]
    | some v => simp [event]

theorem performAll_append (run : Run σ ε) (effects others : List (Effect ε)) :
    run.performAll w (effects ++ others) = (run.performAll w effects).performAll w others :=
  List.foldl_append

theorem performAll_record (run : Run σ ε) (events : List ε) :
    run.performAll w (events.map .record) =
      { run with log := run.log ++ events.map (run.now, ·) } := by
  induction events generalizing run with
  | nil => simp [performAll]
  | cons event events ih =>
    refine (ih (run.record event)).trans ?_
    simp [record]

theorem now_performAll (run : Run σ ε) (effects : List (Effect ε)) :
    (run.performAll w effects).now = run.now := by
  induction effects generalizing run with
  | nil => rfl
  | cons e effects ih => exact (ih (run.perform w e)).trans (log_perform run e).2

theorem state_perform (run : Run σ ε) (e : Effect ε) : (run.perform w e).state = run.state := by
  cases e with
  | ask task operation request => exact (answer_frame _ task _).1
  | _ => rfl

theorem state_performAll (run : Run σ ε) (effects : List (Effect ε)) :
    (run.performAll w effects).state = run.state := by
  induction effects generalizing run with
  | nil => rfl
  | cons e effects ih => exact (ih (run.perform w e)).trans (state_perform run e)

theorem state_fire (run : Run σ ε) (a : Alarm) :
    (run.fire w a).state = (w.resume run.state a.task a.signal).1 :=
  state_performAll _ _

theorem answer_become (run : Run σ ε) (state : σ) (task : Nat) (p : Planned) :
    (run.become state).answer task p = (run.answer task p).become state := by
  by_cases atOnce : p.delay = 0
  · rw [answer, answer, if_pos atOnce, if_pos atOnce]
    rfl
  · rw [answer, answer, if_neg atOnce, if_neg atOnce]
    rfl

theorem performAll_become (run : Run σ ε) (state : σ) (effects : List (Effect ε)) :
    (run.become state).performAll w effects = (run.performAll w effects).become state := by
  induction effects generalizing run with
  | nil => rfl
  | cons e effects ih =>
    have first : (run.become state).perform w e = (run.perform w e).become state := by
      cases e with
      | ask task operation request =>
        exact answer_become
          { run.record (w.fetched operation request) with script := run.script.tail } state task
          (run.script.headD scriptEnd)
      | _ => rfl
    rw [performAll, List.foldl_cons, first]
    exact ih (run.perform w e)

/-! ### Alarms -/

def waking (run : Run σ ε) : List Alarm := run.alarms.filter fun a => !a.signal.isCancel

def cancelling (run : Run σ ε) : List Alarm := run.alarms.filter fun a => a.signal.isCancel

/-- Alarms are told apart by their tickets. Only a reply without delay takes none. -/
structure Ticketed (run : Run σ ε) : Prop where
  positive : 0 < run.ticket
  bounded : ∀ a ∈ run.alarms, a.ticket < run.ticket
  distinct : (run.alarms.map (·.ticket)).Nodup
  cancels : ∀ a ∈ run.alarms, a.signal.isCancel → 0 < a.ticket

theorem ticketed_start (state : σ) (script : List Planned) :
    (start state script : Run σ ε).Ticketed :=
  ⟨Nat.zero_lt_one, nofun, List.nodup_nil, nofun⟩

namespace Ticketed

theorem sublist (h : run.Ticketed) {other : Run σ ε} (fewer : other.alarms.Sublist run.alarms)
    (later : run.ticket ≤ other.ticket) : other.Ticketed where
  positive := Nat.lt_of_lt_of_le h.positive later
  bounded := fun a member => Nat.lt_of_lt_of_le (h.bounded a (fewer.subset member)) later
  distinct := h.distinct.sublist (fewer.map _)
  cancels := fun a member => h.cancels a (fewer.subset member)

theorem set (h : run.Ticketed) (delay task : Nat) (signal : Signal) :
    (run.set delay task signal).Ticketed where
  positive := Nat.succ_pos _
  bounded := by
    intro b member
    rcases List.mem_append.mp member with old | new
    · exact Nat.lt_succ_of_lt (h.bounded b old)
    · rw [List.mem_singleton.mp new]
      exact Nat.lt_succ_self _
  distinct := by
    rw [Run.set, List.map_append, List.map_singleton, ← List.concat_eq_append]
    refine h.distinct.concat fun member => ?_
    obtain ⟨b, old, same⟩ := List.mem_map.mp member
    exact absurd same (Nat.ne_of_lt (h.bounded b old))
  cancels := by
    intro b member
    rcases List.mem_append.mp member with old | new
    · exact h.cancels b old
    · intro _
      rw [List.mem_singleton.mp new]
      exact h.positive

theorem answer (h : run.Ticketed) (quiet : run.waking = []) (task : Nat) (p : Planned) :
    (run.answer task p).Ticketed := by
  rw [Run.answer]
  split
  · have cancelled (b : Alarm) (member : b ∈ run.alarms) : 0 < b.ticket := by
      have noWaking := List.filter_eq_nil_iff.mp quiet b member
      exact h.cancels b member (by simpa using noWaking)
    refine ⟨h.positive, ?_, ?_, ?_⟩
    · exact List.forall_mem_cons.mpr ⟨h.positive, h.bounded⟩
    · refine List.nodup_cons.mpr ⟨fun member => ?_, h.distinct⟩
      obtain ⟨b, old, same⟩ := List.mem_map.mp member
      exact absurd same.symm (Nat.ne_of_lt (cancelled b old))
    · exact List.forall_mem_cons.mpr ⟨nofun, h.cancels⟩
  · exact h.set _ _ _

theorem waking_of_cancel (h : run.Ticketed) (member : a ∈ run.alarms) (cancel : a.signal.isCancel) :
    (run.waking.filter fun b => !(b.due == a.due && b.ticket == a.ticket)) = run.waking := by
  rw [List.filter_eq_self]
  intro b inside
  obtain ⟨set, wakes⟩ := List.mem_filter.mp inside
  have other : b ≠ a := by
    intro same
    rw [same, cancel] at wakes
    cases wakes
  have ticket : b.ticket ≠ a.ticket := fun same =>
    other (List.inj_on_of_nodup_map h.distinct set member same)
  simp [ticket]

end Ticketed

theorem filter_waking (run : Run σ ε) (keeps : Alarm → Bool) :
    (run.alarms.filter keeps).filter (fun a => !a.signal.isCancel) = run.waking.filter keeps := by
  rw [waking, List.filter_filter, List.filter_filter]
  simp only [Bool.and_comm]

theorem alarms_performAll (run : Run σ ε) {effects : List (Effect ε)}
    (told : ∀ e ∈ effects, ∃ event, e = .record event) :
    (run.performAll w effects).alarms = run.alarms ∧
      (run.performAll w effects).ticket = run.ticket := by
  induction effects generalizing run with
  | nil => exact ⟨rfl, rfl⟩
  | cons e effects ih =>
    obtain ⟨event, rfl⟩ := told _ List.mem_cons_self
    exact ih (run.record event) fun e member => told e (List.mem_cons_of_mem _ member)

theorem waking_set (run : Run σ ε) (delay task : Nat) (signal : Signal)
    (wakes : signal.isCancel = false) : (run.set delay task signal).waking =
      run.waking ++ [⟨run.now + delay, run.ticket, task, signal⟩] := by
  simp [waking, set, wakes]

theorem cancelling_set (run : Run σ ε) (delay task : Nat) (signal : Signal)
    (wakes : signal.isCancel = false) :
    (run.set delay task signal).cancelling = run.cancelling := by
  simp [cancelling, set, wakes]

theorem waking_answer (quiet : run.waking = []) (task : Nat) (p : Planned) :
    ∃ ticket, (run.answer task p).waking = [⟨run.now + p.delay, ticket, task, .reply p.reply⟩] := by
  rw [answer]
  split
  · next atOnce =>
    refine ⟨0, ?_⟩
    rw [atOnce, Nat.add_zero]
    exact (List.filter_cons_of_pos rfl).trans (congrArg _ quiet)
  · exact ⟨_, by rw [waking_set _ _ _ _ rfl, quiet, List.nil_append]⟩

theorem cancelling_answer (run : Run σ ε) (task : Nat) (p : Planned) :
    (run.answer task p).cancelling = run.cancelling := by
  rw [answer]
  split
  · rfl
  · exact cancelling_set _ _ _ _ rfl

/-! ### Cancellations -/

theorem waking_cancel {task : Nat} (only : ∀ b ∈ run.waking, b.task = task) :
    (run.perform w (.cancel task)).waking = [] := by
  have none : run.waking.filter (fun b => b.task != task) = [] :=
    List.filter_eq_nil_iff.mpr fun b member => by simp [only b member]
  change ((run.alarms.filter fun b : Alarm => b.task != task) ++ [_]).filter _ = []
  rw [List.filter_append, filter_waking, none]
  rfl

theorem of_mem_cancelling_cancel {task : Nat}
    (member : a ∈ (run.perform w (.cancel task)).cancelling) :
    a ∈ run.cancelling ∨ a.due = run.now ∧ a.task = task := by
  obtain ⟨inside, cancel⟩ := List.mem_filter.mp member
  rcases List.mem_append.mp inside with old | new
  · exact .inl (List.mem_filter.mpr ⟨List.mem_of_mem_filter old, cancel⟩)
  · rw [List.mem_singleton.mp new]
    exact .inr ⟨rfl, rfl⟩

theorem Ticketed.cancel (h : run.Ticketed) (task : Nat) :
    (run.perform w (.cancel task)).Ticketed := by
  have fewer : Ticketed { run with alarms := run.alarms.filter (·.task != task) } :=
    h.sublist List.filter_sublist (Nat.le_refl _)
  exact fewer.set 0 task .cancel

/-! ### After an alarm -/

theorem signal_of_cancelling (set : a ∈ run.cancelling) : a ∈ run.alarms ∧ a.signal = .cancel := by
  obtain ⟨member, cancel⟩ := List.mem_filter.mp set
  refine ⟨member, ?_⟩
  cases signal : a.signal with
  | cancel => rfl
  | _ => rw [signal] at cancel; cases cancel

theorem waking_or_cancelling (set : a ∈ run.alarms) : a ∈ run.waking ∨ a ∈ run.cancelling := by
  cases cancel : a.signal.isCancel with
  | true => exact .inr (List.mem_filter.mpr ⟨set, cancel⟩)
  | false => exact .inl (List.mem_filter.mpr ⟨set, by simp [cancel]⟩)

theorem waking_passed (only : run.waking = [a]) (state : σ) : (run.passed state a).waking = [] := by
  change (run.alarms.filter _).filter _ = []
  rw [filter_waking, only]
  simp

theorem Ticketed.passed (h : run.Ticketed) (state : σ) (a : Alarm) :
    (run.passed state a).Ticketed :=
  h.sublist List.filter_sublist (Nat.le_refl _)

theorem Ticketed.waking_passed (h : run.Ticketed) (set : a ∈ run.cancelling) (state : σ) :
    (run.passed state a).waking = run.waking := by
  obtain ⟨member, cancel⟩ := List.mem_filter.mp set
  change (run.alarms.filter _).filter _ = _
  rw [filter_waking, h.waking_of_cancel member cancel]

theorem cancelling_passed (run : Run σ ε) (state : σ) (a : Alarm) :
    (run.passed state a).cancelling.Sublist run.cancelling :=
  List.filter_sublist.filter _

end Run

end Concordance.Backend
