import Concordance.Backend.Poller

/-! Only the latest submission updates the totals. A run lets every task go on at any moment and in
any order, whatever reaches it, also a task whose cancellation was asked for and has not yet taken
effect. -/

namespace Concordance.Backend

/-- A call of one of the two callbacks: the generation of the task that makes it, the generation
that is current at that moment, and what is passed on. -/
structure Call where
  caller : Nat
  current : Nat
  event : PollEvent

/-- What is noted of a run: the generations that submissions return, and the calls. -/
inductive Happening
  | submitted (generation : Nat)
  | called (c : Call)

namespace Happening

def generation : Happening → Nat
  | submitted g => g
  | called c => c.caller

def submission? : Happening → Option Nat
  | submitted g => some g
  | called _ => none

def call? : Happening → Option Call
  | submitted _ => none
  | called c => some c

def update? (generation : Nat) : Happening → Option Totals
  | submitted _ => none
  | called c =>
    match c.event with
    | .update t => if c.caller = generation then some t else none
    | _ => none

def latest? (history : List Happening) : Option Nat := (history.filterMap submission?).getLast?

/-- The status that the history tells: that of the last update of the latest generation. -/
def status (history : List Happening) : Status :=
  match latest? history with
  | none => .idle
  | some g => (((history.filterMap (update? g)).getLast?).map Totals.status).getD .polling

variable {history : List Happening} {g : Nat}

theorem latest?_submitted (history : List Happening) (g : Nat) :
    latest? (history ++ [submitted g]) = some g := by
  rw [latest?, List.filterMap_append]
  exact List.getLast?_concat

theorem mem_of_latest? (found : latest? history = some g) : submitted g ∈ history := by
  obtain ⟨happening, member, handed⟩ := List.mem_filterMap.mp (List.mem_of_getLast? found)
  cases happening with
  | submitted k => rwa [← Option.some.inj handed]
  | called c => cases handed

theorem update?_of_ne {c : Call} (other : c.caller ≠ g) : update? g (called c) = none := by
  rw [update?]
  split
  · exact if_neg other
  · rfl

end Happening

/-- The call of a task of the current generation, about totals of its own or an error. -/
def Call.Heard (c : Call) : Prop :=
  c.caller = c.current ∧
    ((∃ t, c.event = .update t ∧ t.generation = c.caller ∧ t.status ≠ .superseded) ∨
      ∃ e, c.event = .error e)

namespace Poller

open Happening (latest?)

def calls (effects : Effects) : List PollEvent :=
  effects.filterMap fun
    | .record e => some e
    | _ => none

def call (p : Poller) (t : Poll) (e : PollEvent) : Happening :=
  .called ⟨t.generation, p.generation, e⟩

/-- What one step does. What is asked of the clock and of the backend does not matter here: any
signal may reach any task. A submission whose page size cannot be told is refused after it has made
all tasks old ones. -/
inductive Step : Poller → List Happening → Poller → Prop
  | submit {p q : Poller} {operation : String} {params : Request} {effects : Effects}
      (accepted : p.submit operation params = .ok (q, effects)) :
      Step p [.submitted q.generation] q
  | refuse {p : Poller} {operation : String} {params : Request} {e : Json.NoCount}
      (refused : p.submit operation params = .error e) : Step p [] p.advance
  | stop {p : Poller} : Step p [] p
  | resume {p : Poller} {task : Nat} {t : Poll} (given : p.polls[task]? = some t) (s : Signal) :
      Step p ((calls (p.resume task s).2).map (p.call t)) (p.resume task s).1

inductive Runs : Poller → List Happening → Prop
  | start : Runs idle []
  | step {p q : Poller} {history new : List Happening} (before : Runs p history)
      (step : Step p new q) : Runs q (history ++ new)

/-! ### One step -/

def generations (p : Poller) : List Nat := p.polls.map (·.generation)

theorem generations_setPhase (p : Poller) (task : Nat) (phase : Phase) :
    (p.setPhase task phase).generations = p.generations := by
  rw [generations, setPhase, generations]
  apply List.ext_getElem?
  intro i
  rw [List.getElem?_map, List.getElem?_map, List.getElem?_modify]
  cases p.polls[i]? with
  | none => rfl
  | some t => by_cases here : task = i <;> simp [here]

/-- A step of a task passes nothing on and leaves the status alone, or the task is of the current
generation and passes on totals whose status the poller takes over. -/
structure Passes (p : Poller) (t : Poll) (step : Poller × Effects) : Prop where
  generation : step.1.generation = p.generation
  generations : step.1.generations = p.generations
  told : calls step.2 = [] ∧ step.1.status = p.status ∨
    ∃ (errors : List Error) (totals : Totals), t.generation = p.generation ∧
      calls step.2 = errors.map .error ++ [.update totals] ∧ totals.generation = t.generation ∧
      totals.status ≠ .superseded ∧ step.1.status = totals.status

section

variable {p : Poller} {t : Poll} {task : Nat}

theorem passes_setPhase (phase : Phase) {effects : Effects} (silent : calls effects = []) :
    p.Passes t (p.setPhase task phase, effects) :=
  ⟨rfl, generations_setPhase p task phase, .inl ⟨silent, rfl⟩⟩

theorem passes_idle : p.Passes t (p, []) := ⟨rfl, rfl, .inl ⟨rfl, rfl⟩⟩

theorem passes_finish {totals : Totals} (current : t.generation = p.generation)
    (own : totals.generation = t.generation) (known : totals.status ≠ .superseded) :
    p.Passes t (p.finish task totals) :=
  ⟨rfl, generations_setPhase p task _, .inr ⟨[], totals, current, rfl, own, known, rfl⟩⟩

theorem ofResponse_ok {generation : Nat} {operation : String} {response : Json} {size : Int}
    {totals : Totals} (told : Totals.ofResponse generation operation response size = .ok totals) :
    totals.generation = generation ∧ totals.status ≠ .superseded := by
  simp only [Totals.ofResponse, bind, Except.bind] at told
  split at told
  · cases told
  · split at told
    · cases told
    · cases told
      refine ⟨rfl, ?_⟩
      dsimp only
      split <;> nofun

theorem passes_receive (r : Reply) : p.Passes t (p.receive task t r) := by
  unfold receive
  split
  · exact passes_setPhase _ rfl
  · next current =>
    have current : t.generation = p.generation := Decidable.not_not.mp current
    match r with
    | .error (.busy m) => exact passes_finish current rfl nofun
    | .error (.failed c m) =>
      exact ⟨rfl, generations_setPhase p task _,
        .inr ⟨[.failed c m], .failed t.generation t.pageSize (.failed c m), current, rfl, rfl,
          nofun, rfl⟩⟩
    | .ok response =>
      dsimp only
      cases told : Totals.ofResponse t.generation t.operation response t.pageSize with
      | error e => exact passes_setPhase _ rfl
      | ok totals =>
        obtain ⟨own, known⟩ := ofResponse_ok told
        dsimp only
        split
        · exact ⟨rfl, generations_setPhase p task _,
            .inr ⟨[], totals, current, rfl, own, known, rfl⟩⟩
        · exact passes_finish current own known

theorem passes_resume (given : p.polls[task]? = some t) (s : Signal) :
    p.Passes t (p.resume task s) := by
  rw [resume, given]
  dsimp only
  split
  · exact passes_idle
  · exact passes_setPhase _ rfl
  · exact passes_setPhase _ rfl
  · next r _ => exact passes_receive r
  · split
    · exact passes_setPhase _ rfl
    · exact passes_setPhase _ rfl
  · exact passes_idle

end

/-! ### Runs -/

/-- What every run keeps: all tasks and all that was noted are of generations handed out so far, in
their order, only current tasks were heard, and the status is that of the latest generation. -/
structure Consistent (p : Poller) (history : List Happening) : Prop where
  tasks : ∀ g ∈ p.generations, ∃ k, latest? history = some k ∧ g ≤ k
  bounded : ∀ h ∈ history, h.generation ≤ p.generation
  ordered : (history.map (·.generation)).Pairwise (· ≤ ·)
  heard : ∀ c, .called c ∈ history → c.Heard
  status : p.status = Happening.status history

variable {p q : Poller} {history new : List Happening}

theorem consistent_start : Consistent idle [] :=
  ⟨nofun, nofun, .nil, nofun, rfl⟩

theorem Consistent.ordered_append (h : Consistent p history) {g : Nat} (later : p.generation ≤ g)
    (own : ∀ h ∈ new, h.generation = g) :
    ((history ++ new).map (·.generation)).Pairwise (· ≤ ·) := by
  rw [List.map_append, List.pairwise_append]
  refine ⟨h.ordered, ?_, ?_⟩
  · rw [List.pairwise_map]
    refine List.pairwise_iff_forall_sublist.mpr fun {a b} pair => ?_
    have left := own a (pair.subset List.mem_cons_self)
    have right := own b (pair.subset (List.mem_cons_of_mem a List.mem_cons_self))
    exact Nat.le_of_eq (left.trans right.symm)
  · intro a first b second
    obtain ⟨x, x_mem, rfl⟩ := List.mem_map.mp first
    obtain ⟨y, y_mem, rfl⟩ := List.mem_map.mp second
    rw [own y y_mem]
    exact Nat.le_trans (h.bounded x x_mem) later

theorem consistent_launch (h : Consistent p history) (operation : String) (params : Request)
    (size : Int) : Consistent (p.launch operation params size).1
      (history ++ [.submitted (p.generation + 1)]) := by
  have latest : latest? (history ++ [.submitted (p.generation + 1)]) = some (p.generation + 1) :=
    Happening.latest?_submitted history _
  refine ⟨?_, ?_, h.ordered_append (Nat.le_succ _) (by simp [Happening.generation]), ?_, ?_⟩
  · intro g member
    refine ⟨_, latest, ?_⟩
    simp only [generations, launch, List.map_append, List.map_singleton, List.mem_append,
      List.mem_singleton] at member
    rcases member with old | rfl
    · obtain ⟨k, found, le⟩ := h.tasks g old
      have bound := h.bounded _ (Happening.mem_of_latest? found)
      simp only [Happening.generation] at bound
      omega
    · exact Nat.le_refl _
  · intro happening member
    rcases List.mem_append.mp member with old | here
    · exact Nat.le_succ_of_le (h.bounded happening old)
    · rw [List.mem_singleton.mp here]
      exact Nat.le_refl _
  · intro c member
    refine h.heard c ?_
    simpa using member
  · -- no task of the new generation has been heard
    have silent : (history ++ [Happening.submitted (p.generation + 1)]).filterMap
        (Happening.update? (p.generation + 1)) = [] := by
      rw [List.filterMap_eq_nil_iff]
      intro happening member
      rcases List.mem_append.mp member with old | here
      · have bound := h.bounded happening old
        cases happening with
        | submitted g => rfl
        | called c =>
          apply Happening.update?_of_ne
          simp only [Happening.generation] at bound
          omega
      · rw [List.mem_singleton.mp here]
        rfl
    rw [Happening.status, latest]
    dsimp only
    rw [silent]
    rfl

theorem consistent_advance (h : Consistent p history) : Consistent p.advance history :=
  ⟨h.tasks, fun happening member => Nat.le_succ_of_le (h.bounded happening member), h.ordered,
    h.heard, h.status⟩

theorem Consistent.latest (h : Consistent p history) {t : Poll} (member : t ∈ p.polls)
    (current : t.generation = p.generation) : latest? history = some t.generation := by
  obtain ⟨k, found, le⟩ := h.tasks _ (List.mem_map_of_mem member)
  have bound : k ≤ p.generation := h.bounded _ (Happening.mem_of_latest? found)
  rw [found, Nat.le_antisymm (current ▸ bound) le]

theorem latest?_calls (t : Poll) (events : List PollEvent) :
    latest? (history ++ events.map (p.call t)) = latest? history := by
  have silent : (events.map (p.call t)).filterMap Happening.submission? = [] := by
    rw [List.filterMap_map]
    exact List.filterMap_eq_nil_iff.mpr fun _ _ => rfl
  rw [latest?, List.filterMap_append, silent, List.append_nil]
  rfl

theorem status_update {t : Poll} (latest : latest? history = some t.generation)
    (errors : List Error) (totals : Totals) :
    Happening.status
        (history ++ (errors.map PollEvent.error ++ [PollEvent.update totals]).map (p.call t)) =
      totals.status := by
  rw [Happening.status, latest?_calls, latest]
  dsimp only
  have last : Happening.update? t.generation (p.call t (.update totals)) = some totals := if_pos rfl
  rw [List.map_append, List.map_singleton, ← List.append_assoc, List.filterMap_append,
    List.filterMap_cons_some last]
  simp

theorem consistent_resume (h : Consistent p history) {task : Nat} {t : Poll}
    (given : p.polls[task]? = some t) (s : Signal) :
    Consistent (p.resume task s).1
      (history ++ (calls (p.resume task s).2).map (p.call t)) := by
  obtain ⟨generation, generations, told⟩ := passes_resume given s
  rcases told with ⟨silent, same⟩ | ⟨errors, totals, current, told, own, known, taken⟩
  · rw [silent, List.map_nil, List.append_nil]
    exact ⟨by rw [generations]; exact h.tasks, by rw [generation]; exact h.bounded, h.ordered,
      h.heard, same.trans h.status⟩
  · rw [told]
    have latest := h.latest (List.mem_of_getElem? given) current
    have called : ∀ happening ∈
        (errors.map PollEvent.error ++ [PollEvent.update totals]).map (p.call t),
            happening.generation = p.generation := by
      intro happening member
      obtain ⟨event, -, rfl⟩ := List.mem_map.mp member
      exact current
    refine ⟨?_, ?_, h.ordered_append (Nat.le_refl _) called, ?_, ?_⟩
    · rw [generations, latest?_calls]
      exact h.tasks
    · intro happening member
      rw [generation]
      rcases List.mem_append.mp member with old | new
      · exact h.bounded happening old
      · exact Nat.le_of_eq (called happening new)
    · intro c member
      rcases List.mem_append.mp member with old | new
      · exact h.heard c old
      · obtain ⟨event, passed, eq⟩ := List.mem_map.mp new
        cases eq
        refine ⟨current, ?_⟩
        rcases List.mem_append.mp passed with error | update
        · obtain ⟨e, -, rfl⟩ := List.mem_map.mp error
          exact .inr ⟨e, rfl⟩
        · exact .inl ⟨totals, List.mem_singleton.mp update, own, known⟩
    · rw [taken, status_update latest]

theorem Step.consistent (step : Step p new q) (h : Consistent p history) :
    Consistent q (history ++ new) := by
  cases step with
  | submit accepted =>
    simp only [Poller.submit, bind, Except.bind] at accepted
    split at accepted
    · cases accepted
    · next size _ =>
      cases accepted
      exact consistent_launch h _ _ size
  | refuse refused =>
    rw [List.append_nil]
    exact consistent_advance h
  | stop =>
    rw [List.append_nil]
    exact h
  | resume given s => exact consistent_resume h given s

theorem Runs.consistent (run : Runs p history) : Consistent p history := by
  induction run with
  | start => exact consistent_start
  | step before step ih => exact step.consistent ih

theorem status_ne_superseded (heard : ∀ c, .called c ∈ history → c.Heard) :
    Happening.status history ≠ .superseded := by
  rw [Happening.status]
  split
  · nofun
  · next g _ =>
    cases last : (history.filterMap (Happening.update? g)).getLast? with
    | none => nofun
    | some totals =>
      obtain ⟨happening, member, update⟩ := List.mem_filterMap.mp (List.mem_of_getLast? last)
      cases happening with
      | submitted k => cases update
      | called c =>
        obtain ⟨-, ⟨t, passed, -, known⟩ | ⟨e, passed⟩⟩ := heard c member <;>
          rw [Happening.update?, passed] at update
        · obtain ⟨-, own⟩ := Option.ite_none_right_eq_some.mp update
          cases own
          exact known
        · cases update

/-- In every run only the current task calls back, so that what is passed on never falls back to an
older generation, and the status is that of the latest submission. -/
theorem only_latest_heard (run : Runs p history) :
    (∀ c, .called c ∈ history → c.Heard) ∧
      ((history.filterMap Happening.call?).map (·.caller)).Pairwise (· ≤ ·) ∧
      (∀ (before after : List Happening) (g : Nat), history = before ++ .submitted g :: after →
        ∀ c, .called c ∈ after → g ≤ c.caller) ∧
      p.status = Happening.status history ∧ p.status ≠ .superseded := by
  have h := run.consistent
  refine ⟨h.heard, ?_, ?_, h.status, h.status ▸ status_ne_superseded h.heard⟩
  · rw [List.pairwise_map, List.pairwise_filterMap]
    refine (List.pairwise_map.mp h.ordered).imp fun {a b} le => ?_
    rintro c called d later
    cases a <;> cases called
    cases b <;> cases later
    exact le
  · rintro before after g rfl c member
    have ordered := h.ordered
    rw [List.map_append, List.map_cons] at ordered
    have first := (List.pairwise_cons.mp (List.pairwise_append.mp ordered).2.1).1
    exact first _ (List.mem_map_of_mem member)

/-- A task that waits for a response is replaced, gets it nevertheless, and then the task that took
its place fails. -/
def replaced : Poller :=
  let first := ((idle.launch "hits" [] 50).1.resume 0 .start).1
  let late := ((first.launch "docs" [] 50).1.resume 0 (.reply (.ok (.obj [])))).1
  ((late.resume 1 .start).1.resume 1 (.reply (.error (.failed "DOWN" "no answer")))).1

def replacedHistory : List Happening :=
  [.submitted 1, .submitted 2, .called ⟨2, 2, .error (.failed "DOWN" "no answer")⟩,
    .called ⟨2, 2, .update (.failed 2 50 (.failed "DOWN" "no answer"))⟩]

theorem only_latest_heard_replaced :
    Runs replaced replacedHistory ∧
      ((replacedHistory.filterMap Happening.call?).map (·.caller)).Pairwise (· ≤ ·) ∧
      replaced.status = .failed := by
  have run : Runs replaced replacedHistory := by
    have first := Runs.start.step (.submit (show idle.submit "hits" [] = .ok (_, _) from rfl))
    have asked := first.step (.resume (show (Poller.polls _)[0]? = some _ from rfl) .start)
    have second := asked.step (.submit (show Poller.submit _ "docs" [] = .ok (_, _) from rfl))
    have late := second.step
      (.resume (show (Poller.polls _)[0]? = some _ from rfl) (.reply (.ok (.obj []))))
    have askedAgain := late.step (.resume (show (Poller.polls _)[1]? = some _ from rfl) .start)
    have failed := askedAgain.step
      (.resume (show (Poller.polls _)[1]? = some _ from rfl)
        (.reply (.error (.failed "DOWN" "no answer"))))
    exact failed
  obtain ⟨-, ordered, -, status, -⟩ := only_latest_heard run
  exact ⟨run, ordered, status.trans rfl⟩

end Poller

end Concordance.Backend
