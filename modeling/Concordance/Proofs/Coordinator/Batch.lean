import Mathlib.Data.Set.List
import Concordance.Proofs.Coordinator.Refusal

/-! Batches: a batch that is submitted leaves its alternatives at the top of the history, each once,
in the order in which they were typed. -/

namespace Concordance

namespace Coordinator

open History (Entry Distinct raise raiseAll)

variable {c : Coordinator} {site : Site} {x : Snapshot} {h : History}

/-! ### States that are reached -/

inductive Event
  | attempt (batch : Bool) (x : Snapshot)
  | resume (task : Nat) (s : Backend.Signal)
  | navigate (n : Navigation)
  | change (e : History.Change)
  | reopen (settings : Settings) (maxEntries : Int) (time : String)

def next (c : Coordinator) : Event → Coordinator
  | .attempt batch x => (c.attempt batch x).state
  | .resume task s => (c.resume task s).1
  | .navigate n => { c with navigation := n }
  | .change e => { c with history := c.history.map (·.change e) }
  | .reopen settings maxEntries time =>
    { c with history := c.history.map fun h => ⟨settings, maxEntries, time, h.entries⟩ }

inductive Reached : Coordinator → Prop
  | new {c : Coordinator} (empty : ∀ h ∈ c.history, h.entries = []) : Reached c
  | next {c : Coordinator} (reached : Reached c) (e : Event) : Reached (c.next e)

/-- The history lists no search twice. -/
def IsDistinct (c : Coordinator) : Prop := ∀ h ∈ c.history, Distinct h.entries

theorem distinct_queue (distinct : Distinct h.entries) (site : Site) (xs : List Snapshot) :
    Distinct (queue site xs h).1.entries := by
  induction xs with
  | nil => exact distinct
  | cons y ys ih =>
    rw [queue]
    split
    · next later =>
      rw [later] at ih
      exact ih
    · next later =>
      rw [later] at ih
      dsimp only
      split
      · exact ih.add _ _
      · exact ih

theorem history_accept (c : Coordinator) (x : Snapshot) (search : Option Parameters) (e : Link) :
    (c.accept x search e).state.history = c.history.map (·.add x e.url) := by
  rw [accept]
  dsimp only
  split
  · rfl
  · split <;> rfl

theorem IsDistinct.submit (distinct : c.IsDistinct) (x : Snapshot) :
    (c.submit x).state.IsDistinct := by
  rw [Coordinator.submit]
  split
  · intro h kept
    rw [history_accept] at kept
    obtain ⟨k, before, rfl⟩ := Option.mem_map.mp kept
    exact (distinct k before).add _ _
  · exact distinct

theorem IsDistinct.submitBatch (distinct : c.IsDistinct) (x : Snapshot) :
    (c.submitBatch x).state.IsDistinct := by
  cases split : View.split x.view with
  | error u =>
    rw [Coordinator.submitBatch, split]
    exact distinct
  | ok views =>
    cases views with
    | nil =>
      rw [Coordinator.submitBatch, split]
      exact distinct
    | cons first rest =>
      cases kept : c.history with
      | none =>
        rw [submitBatch_alone split kept]
        exact distinct.submit _
      | some h =>
        have queued : IsDistinct { c with
            history := some (queue c.site (rest.map x.withView) h).1 } := by
          intro k same
          cases same
          exact distinct_queue (distinct h kept) c.site _
        rw [submitBatch_eq split kept]
        split
        · next later =>
          rw [later] at queued
          exact queued
        · next later =>
          rw [later] at queued
          exact queued.submit _

theorem IsDistinct.next (distinct : c.IsDistinct) (e : Event) : (c.next e).IsDistinct := by
  cases e with
  | attempt batch x =>
    cases batch with
    | false => exact distinct.submit x
    | true => exact distinct.submitBatch x
  | resume task s =>
    change (c.resume task s).1.IsDistinct
    rw [Coordinator.resume]
    split <;> exact distinct
  | navigate n => exact distinct
  | change e =>
    intro h kept
    obtain ⟨k, before, rfl⟩ := Option.mem_map.mp kept
    exact (distinct k before).change e
  | reopen settings maxEntries time =>
    intro h kept
    obtain ⟨k, before, rfl⟩ := Option.mem_map.mp kept
    exact distinct k before

def entryOf (site : Site) (h : History) (x : Snapshot) : Except Link.Refusal Entry :=
  (site.encode (x.prepare site.settings)).map fun e => h.entryOf (x.prepare site.settings) e.url

def Step.withHistory (step : Step) (history : Option History) : Step :=
  { step with state := { step.state with history } }

end Coordinator

end Concordance
