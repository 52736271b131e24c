import Concordance.Proofs.Backend.Course

/-! An undisturbed poll follows the script of the backend: it asks once for each reply up to the
first that is not a summary of a search still counting, always with the same request and with one
pause in between, and publishes one update for each. -/

namespace Concordance.Backend

namespace PollEvent

def fetch? : PollEvent → Option (String × Request)
  | fetch operation request => some (operation, request)
  | _ => none

def update? : PollEvent → Option Totals
  | update totals => some totals
  | _ => none

def error? : PollEvent → Option Error
  | error e => some e
  | _ => none

end PollEvent

def moments {α : Type} (kind? : PollEvent → Option α) (events : List (Nat × PollEvent)) :
    List Nat :=
  (events.filter fun e => (kind? e.2).isSome).map (·.1)

structure Follows (interval : Nat) (t : Poll) (now : Nat) (counting : List Planned) (last : Planned)
    (heard : List (Nat × PollEvent)) : Prop where
  course : heard = t.course interval now (counting ++ [last])
  requests : heard.filterMap (·.2.fetch?) =
    List.replicate (counting.length + 1) (t.operation, t.request)
  /-- Each request but the first comes one interval after an update. -/
  spaced : moments PollEvent.fetch? heard =
    now :: (moments PollEvent.update? heard).dropLast.map (· + interval)
  updates : heard.filterMap (·.2.update?) = (counting ++ [last]).map (t.told ·.reply)
  statuses : (heard.filterMap (·.2.update?)).map (·.status) =
    List.replicate counting.length .polling ++ [statusOf last.reply]
  pageSizes : ∀ totals ∈ heard.filterMap (·.2.update?), totals.pageSize = t.pageSize
  errors : heard.filterMap (·.2.error?) = (errorOf? last.reply).toList
  ending : ∃ earlier, heard.map (·.2) =
    earlier ++ (errorOf? last.reply).toList.map .error ++ [.update (t.told last.reply)]

section Heard

variable (t : Poll) (interval now : Nat) (r : Reply) (plan : List Planned)

theorem heard_eq : t.heard r = [.update (t.told r)] ∧ errorOf? r = none ∨
    ∃ e, t.heard r = [.error e, .update (t.told r)] ∧ errorOf? r = some e := by
  rw [Poll.heard]
  cases errorOf? r with
  | none => exact .inl ⟨rfl, rfl⟩
  | some e => exact .inr ⟨e, rfl, rfl⟩

theorem filterMap_course {α : Type} (kind? : PollEvent → Option α) :
    (t.course interval now plan).filterMap (kind? ·.2) =
      plan.flatMap fun p =>
        (PollEvent.fetch t.operation t.request :: t.heard p.reply).filterMap kind? := by
  induction plan generalizing now with
  | nil => rfl
  | cons p plan ih =>
    rw [Poll.course, List.filterMap_append, List.filterMap_cons, List.filterMap_map, ih,
      List.flatMap_cons, List.filterMap_cons]
    rfl

theorem requests_course : (t.course interval now plan).filterMap (·.2.fetch?) =
    List.replicate plan.length (t.operation, t.request) := by
  have one (p : Planned) :
      (PollEvent.fetch t.operation t.request :: t.heard p.reply).filterMap PollEvent.fetch? =
        [(t.operation, t.request)] := by
    rcases heard_eq t p.reply with ⟨heard, -⟩ | ⟨e, heard, -⟩ <;> rw [heard] <;> rfl
  rw [filterMap_course]
  simp only [one]
  exact (List.flatMap_pure_eq_map _ _).trans List.map_const'

theorem updates_course : (t.course interval now plan).filterMap (·.2.update?) =
    plan.map (t.told ·.reply) := by
  have one (p : Planned) :
      (PollEvent.fetch t.operation t.request :: t.heard p.reply).filterMap PollEvent.update? =
        [t.told p.reply] := by
    rcases heard_eq t p.reply with ⟨heard, -⟩ | ⟨e, heard, -⟩ <;> rw [heard] <;> rfl
  rw [filterMap_course]
  simp only [one]
  exact List.flatMap_pure_eq_map _ _

theorem errors_course : (t.course interval now plan).filterMap (·.2.error?) =
    plan.filterMap (errorOf? ·.reply) := by
  have one (p : Planned) :
      (PollEvent.fetch t.operation t.request :: t.heard p.reply).filterMap PollEvent.error? =
        (errorOf? p.reply).toList := by
    rcases heard_eq t p.reply with ⟨heard, silent⟩ | ⟨e, heard, found⟩
    · rw [heard, silent]
      rfl
    · rw [heard, found]
      rfl
  rw [filterMap_course, List.filterMap_eq_flatMap_toList]
  simp only [one]

theorem moments_course_cons (p : Planned) :
    moments PollEvent.fetch? (t.course interval now (p :: plan)) =
        now :: moments PollEvent.fetch? (t.course interval (now + p.delay + interval) plan) ∧
      moments PollEvent.update? (t.course interval now (p :: plan)) =
        (now + p.delay) ::
          moments PollEvent.update? (t.course interval (now + p.delay + interval) plan) := by
  rw [Poll.course, moments, moments, moments, moments]
  rcases heard_eq t p.reply with ⟨heard, -⟩ | ⟨e, heard, -⟩ <;> rw [heard] <;> exact ⟨rfl, rfl⟩

theorem spaced_course (last : Planned) :
    moments PollEvent.fetch? (t.course interval now (plan ++ [last])) = now ::
      (moments PollEvent.update? (t.course interval now (plan ++ [last]))).dropLast.map
        (· + interval) := by
  induction plan generalizing now with
  | nil =>
    obtain ⟨asked, told⟩ := moments_course_cons t interval now [] last
    rw [List.nil_append, asked, told]
    rfl
  | cons p plan ih =>
    obtain ⟨asked, told⟩ := moments_course_cons t interval now (plan ++ [last]) p
    have some_update :
        moments PollEvent.update? (t.course interval (now + p.delay + interval) (plan ++ [last])) ≠
          [] := by
      cases plan with
      | nil => simp [moments_course_cons]
      | cons q plan => simp [moments_course_cons]
    rw [List.cons_append, asked, told, ih, List.dropLast_cons_of_ne_nil some_update]
    rfl

theorem ending_course (last : Planned) : ∃ earlier,
    (t.course interval now (plan ++ [last])).map (·.2) = earlier ++ t.heard last.reply := by
  induction plan generalizing now with
  | nil => exact ⟨[.fetch t.operation t.request], by simp [Poll.course, Function.comp_def]⟩
  | cons p plan ih =>
    obtain ⟨earlier, rest⟩ := ih (now + p.delay + interval)
    refine ⟨.fetch t.operation t.request :: t.heard p.reply ++ earlier, ?_⟩
    rw [List.cons_append, Poll.course, List.map_append, rest]
    simp [Function.comp_def]

end Heard

theorem follows_course (t : Poll) (interval now : Nat) {counting : List Planned}
    (still : ∀ p ∈ counting, statusOf p.reply = .polling) (last : Planned) :
    Follows interval t now counting last (t.course interval now (counting ++ [last])) where
  course := rfl
  requests := by
    rw [requests_course, List.length_append]
    rfl
  spaced := spaced_course t interval now counting last
  updates := updates_course t interval now _
  statuses := by
    have counted : counting.map (fun p => (t.told p.reply).status) =
        List.replicate counting.length .polling :=
      List.map_eq_replicate_iff.mpr fun p member =>
        (statusOf_told t p.reply).trans (still p member)
    rw [updates_course, List.map_map, List.map_append]
    exact congrArg₂ (· ++ ·) counted (congrArg ([·]) (statusOf_told t last.reply))
  pageSizes := by
    rw [updates_course]
    intro totals member
    obtain ⟨p, -, rfl⟩ := List.mem_map.mp member
    exact pageSize_told t p.reply
  errors := by
    have silent : counting.filterMap (errorOf? ·.reply) = [] :=
      List.filterMap_eq_nil_iff.mpr fun p member => Poller.errorOf?_of_counting (still p member)
    rw [errors_course, List.filterMap_append, silent]
    cases found : errorOf? last.reply <;> simp [found]
  ending := by
    obtain ⟨earlier, shape⟩ := ending_course t interval now counting last
    exact ⟨earlier, by rw [shape, Poll.heard, List.append_assoc]⟩

namespace Poller

/-- The page size for the number that was submitted: 50 where there is none, or where it counts as
nothing. -/
inductive Sized : Option Json → Int → Prop
  | absent : Sized none 50
  | nothing {number : Json} (empty : number.truthy = false) : Sized (some number) 50
  | given {number : Json} {n : Int} (filled : number.truthy) (counted : number.count = .ok n) :
      Sized (some number) n

theorem sized_int (n : Int) : Sized (some (.int n)) (if n = 0 then 50 else n) := by
  by_cases zero : n = 0
  · rw [if_pos zero, zero]
    exact .nothing rfl
  · rw [if_neg zero]
    exact .given (by simpa [Json.truthy] using zero) rfl

/-- The poll asks for what was submitted, but for no results. -/
structure IsPollOf (generation : Nat) (operation : String) (params : Request) (size : Int)
    (t : Poll) : Prop where
  generation : t.generation = generation
  operation : t.operation = operation
  number : (Json.obj t.request).get? "number" = some (.int 0)
  others : ∀ name, name ≠ "number" → (Json.obj t.request).get? name = (Json.obj params).get? name
  pageSize : t.pageSize = size

variable {params : Request} {size : Int}

theorem pageSize_of_sized (sized : Sized ((Json.obj params).get? "number") size) :
    pageSize params = .ok size := by
  have found : (params.find? (·.1 = "number")).map (·.2) = (Json.obj params).get? "number" := rfl
  rw [pageSize, found]
  generalize (Json.obj params).get? "number" = number at sized
  cases sized with
  | absent => rfl
  | nothing empty =>
    dsimp only
    rw [empty]
    rfl
  | given filled counted =>
    dsimp only
    rw [if_pos filled, counted]

theorem isPollOf (generation : Nat) (operation : String) (params : Request) (size : Int) :
    IsPollOf generation operation params size
      ⟨generation, operation, countRequest params, size, .created⟩ where
  generation := rfl
  operation := rfl
  number := congrArg (Option.map Prod.snd)
    (Keyed.find?_put_self "number" (Json.int 0) params)
  others := fun _ other => congrArg (Option.map Prod.snd)
    (Keyed.find?_put_of_ne (Json.int 0) other params)
  pageSize := rfl

theorem isPlan_append {counting : List Planned} {last : Planned}
    (still : ∀ p ∈ counting, IsOutcome p.reply ∧ statusOf p.reply = .polling)
    (outcome : IsOutcome last.reply) (ends : statusOf last.reply ≠ .polling) :
    IsPlan (counting ++ [last]) := by
  induction counting with
  | nil => exact .last outcome ends
  | cons p counting ih =>
    obtain ⟨first, others⟩ := List.forall_mem_cons.mp still
    exact .more first.1 first.2 (ih others)

/-- The replies that go on counting before the first one that does not. -/
def countingOf (script : List Planned) : List Planned :=
  script.takeWhile fun p => statusOf p.reply = .polling

theorem exists_last {script : List Planned}
    (terminal : ∃ p ∈ script, statusOf p.reply ≠ .polling) :
    ∃ last, countingOf script ++ [last] <+: script ∧ statusOf last.reply ≠ .polling := by
  induction script with
  | nil => simp at terminal
  | cons p script ih =>
    rw [countingOf]
    by_cases still : statusOf p.reply = .polling
    · have later : ∃ q ∈ script, statusOf q.reply ≠ .polling := by
        simpa [still] using terminal
      obtain ⟨last, first, ends⟩ := ih later
      rw [List.takeWhile_cons_of_pos (by simpa using still)]
      exact ⟨last, (List.prefix_cons_inj p).mpr first, ends⟩
    · rw [List.takeWhile_cons_of_neg (by simpa using still)]
      exact ⟨p, List.prefix_append [p] script, still⟩

/-- A poll that is not disturbed after its submission follows the script up to the first reply that
is not a summary of a search still counting. What happened before does not matter. -/
theorem undisturbed_follows (interval : Nat) :
    (∀ actions script run,
      Rehearsal.actAll interval actions ((Run.start idle script).record (.status .idle)) = .ok run →
        Reached interval run) ∧
    ∀ before, Reached interval before → ∀ operation params size,
      Sized ((Json.obj params).get? "number") size →
      (∀ p ∈ before.script, IsOutcome p.reply) →
      (∃ p ∈ before.script, statusOf p.reply ≠ .polling) →
      ∃ begun last t heard,
        Rehearsal.act interval before (.submit operation params) = .ok begun ∧
        countingOf before.script ++ [last] <+: before.script ∧ statusOf last.reply ≠ .polling ∧
        IsPollOf (before.state.generation + 1) operation params size t ∧
        (begun.finish (work interval)).alarms = [] ∧
        (begun.finish (work interval)).log =
          before.log ++ (before.now, .submitted (before.state.generation + 1)) :: heard ∧
        Follows interval t before.now (countingOf before.script) last heard := by
  refine ⟨fun actions script run acted => ?_, ?_⟩
  · have started : Rehearsal.act interval (Run.start idle script) .status =
        .ok ((Run.start idle script).record (.status .idle)) := rfl
    exact ((Reached.start script).act started).actAll acted
  · intro before reached operation params size sized outcomes terminal
    obtain ⟨last, first, ends⟩ := exists_last terminal
    have still (p : Planned) (member : p ∈ countingOf before.script) :
        statusOf p.reply = .polling := by
      simpa using List.all_eq_true.mp List.all_takeWhile p member
    have planned : IsPlan (countingOf before.script ++ [last]) := by
      refine isPlan_append (fun p member => ⟨outcomes p ?_, still p member⟩) ?_ ends
      · exact first.subset (List.mem_append_left _ member)
      · exact outcomes last (first.subset (List.mem_append_right _ List.mem_cons_self))
    obtain ⟨begun, acted, course⟩ := reached.orderly.exists_onCourse interval operation
      (pageSize_of_sized sized) planned first
    obtain ⟨log, quiet⟩ := course.finish
    exact ⟨begun, last, _, _, acted, first, ends, isPollOf _ operation params size, quiet, log,
      follows_course _ interval before.now still last⟩

def givenUp : List Planned :=
  [⟨20, .ok (.obj [("summary", .obj [("numberOfHits", .int 10), ("stillCounting", .bool true)])])⟩,
    ⟨5, .error (.failed "DOWN" "gone")⟩]

/-- Two requests, the second one after the reply to the first and a pause, and an error. -/
theorem undisturbed_follows_givenUp : ∃ begun heard,
    Rehearsal.act 100 (Run.start idle givenUp) (.submit "hits" [("number", .int 20)]) = .ok begun ∧
      (begun.finish (work 100)).log = (0, .submitted 1) :: heard ∧
      (heard.filterMap (·.2.update?)).map (·.status) = [.polling, .failed] ∧
      heard.filterMap (·.2.error?) = [.failed "DOWN" "gone"] ∧
      moments PollEvent.fetch? heard = [0, 120] := by
  have outcomes : ∀ p ∈ givenUp, IsOutcome p.reply := by
    refine List.forall_mem_cons.mpr ⟨⟨_, rfl, ?_⟩, List.forall_mem_singleton.mpr trivial⟩
    simp [countNames, Json.get?]
  have terminal : ∃ p ∈ givenUp, statusOf p.reply ≠ .polling :=
    ⟨_, List.mem_cons_of_mem _ List.mem_cons_self, nofun⟩
  obtain ⟨begun, last, t, heard, acted, first, ends, poll, -, log, follows⟩ :=
    (undisturbed_follows 100).2 (Run.start idle givenUp) (.start givenUp) "hits"
      [("number", .int 20)] 20 (sized_int 20) outcomes terminal
  have counted : countingOf (Run.start idle givenUp : Rehearsal).script = givenUp.take 1 := rfl
  rw [counted] at first follows
  obtain ⟨rest, whole⟩ := first
  have second : last = ⟨5, .error (.failed "DOWN" "gone")⟩ :=
    (List.cons.inj (List.cons.inj whole).2).1
  subst second
  refine ⟨begun, heard, acted, log, follows.statuses, follows.errors, ?_⟩
  rw [follows.course]
  rfl

end Poller

end Concordance.Backend
