import Concordance.Coordinator
import Concordance.Proofs.History
import Concordance.Proofs.Link.Prepared
import Concordance.Proofs.View.Batch

/-! Refused searches. What can be wrong with a search is wrong with each of its alternatives, so a
search is refused before anything of it is recorded. -/

namespace Concordance

namespace Snapshot

variable {x : Snapshot}

def withView (x : Snapshot) (v : View) : Snapshot := { x with view := some v }

theorem HasShortIntegers.withView (short : x.HasShortIntegers) {views : List View}
    (split : View.split x.view = .ok views) : ∀ w ∈ views, (x.withView w).HasShortIntegers := by
  intro w member
  obtain ⟨v, within, -, rfl⟩ := View.exists_of_mem_split split member
  exact ⟨nofun, short.pageSize, short.sampleSize, short.sampleSeed, short.wordsAroundHit,
    short.page⟩

end Snapshot

namespace Coordinator

variable {c : Coordinator} {site : Site} {x : Snapshot} {u : Unusable}

/-! ### Settled searches -/

theorem settle_error (site : Site) (invalid : x.globals.validate = .error u) :
    settle site x = .error (.unusable u) := by
  rw [settle, invalid]
  rfl

theorem settle_ok (site : Site) (short : x.HasShortIntegers) (valid : x.globals.validate = .ok ()) :
    ∃ search e, site.encode (x.prepare site.settings) = .ok e ∧
      settle site x = .ok (x.prepare site.settings, search, e) := by
  obtain ⟨search, e, asked, coded⟩ := site.exists_encode_prepare short valid
  refine ⟨search, e, coded, ?_⟩
  rw [settle, valid]
  simp only [Except.mapError, bind, Except.bind, asked, coded]

/-! ### Waiting searches -/

section Queue

variable {xs : List Snapshot} {h : History}

theorem queue_error {r : Link.Refusal} (given : xs ≠ [])
    (refused : ∀ y ∈ xs, site.encode (y.prepare site.settings) = .error r) (h : History) :
    queue site xs h = (h, some (.link r)) := by
  induction xs with
  | nil => exact absurd rfl given
  | cons y ys ih =>
    rw [List.forall_mem_cons] at refused
    rw [queue]
    cases ys with
    | nil =>
      rw [queue]
      dsimp only
      rw [refused.1]
    | cons z zs => rw [ih (List.cons_ne_nil z zs) refused.2]

theorem queue_coded (coded : ∀ y ∈ xs, ∃ e, site.encode (y.prepare site.settings) = .ok e)
    (h : History) : ∃ k, k.maxEntries = h.maxEntries ∧ (queue site xs h = (k, none) ∨
      queue site xs h = (k, some .limit) ∧ h.maxEntries < -0x8000000000000000) := by
  induction xs with
  | nil => exact ⟨h, rfl, .inl rfl⟩
  | cons y ys ih =>
    rw [List.forall_mem_cons] at coded
    obtain ⟨⟨e, here⟩, others⟩ := coded
    obtain ⟨k, same, entered | ⟨refused, low⟩⟩ := ih others
    · rw [queue, entered]
      dsimp only
      rw [here]
      dsimp only
      refine ⟨k.add (y.prepare site.settings) e.url, same, ?_⟩
      by_cases holds : (k.add (y.prepare site.settings) e.url).holdsLimit
      · exact .inl (by rw [if_pos holds])
      · refine .inr ⟨by rw [if_neg holds], ?_⟩
        by_contra counted
        exact holds (History.holdsLimit_add (by omega) _ _)
    · rw [queue, refused]
      exact ⟨k, same, .inr ⟨rfl, low⟩⟩

end Queue

/-! ### Refusals -/

/-- The history has a limit that is too low to be counted. -/
def Uncountable (c : Coordinator) : Prop := ∃ h ∈ c.history, h.maxEntries < -0x8000000000000000

theorem submit_error (c : Coordinator) (invalid : x.globals.validate = .error u) :
    c.submit x = ⟨c, [], .error (.link (.unusable u))⟩ := by
  rw [submit, settle_error c.site invalid]

theorem accept_result (c : Coordinator) (x : Snapshot) (search : Option Parameters) (e : Link) :
    (∃ sub, (c.accept x search e).result = .ok sub) ∨
      (c.accept x search e).result = .error .limit ∧ c.Uncountable := by
  rw [accept]
  dsimp only
  split
  · next beyond =>
    refine .inr ⟨rfl, ?_⟩
    cases kept : c.history with
    | none =>
      rw [kept] at beyond
      cases beyond
    | some h =>
      rw [kept, Option.map_some, Option.any_some] at beyond
      refine ⟨h, kept, ?_⟩
      by_contra counted
      rw [History.holdsLimit_add (by omega)] at beyond
      cases beyond
  · split <;> exact .inl ⟨_, rfl⟩

theorem submit_ok (c : Coordinator) (short : x.HasShortIntegers)
    (valid : x.globals.validate = .ok ()) : (∃ sub, (c.submit x).result = .ok sub) ∨
      (c.submit x).result = .error .limit ∧ c.Uncountable := by
  obtain ⟨search, e, -, settled⟩ := settle_ok c.site short valid
  rw [submit, settled]
  exact c.accept_result _ search e

/-! ### Batches -/

section Batch

variable {first : View} {rest : List View} {h : History}

theorem submitBatch_alone (split : View.split x.view = .ok (first :: rest))
    (forgets : c.history = none) : c.submitBatch x = c.submit (x.withView first) := by
  rw [submitBatch, split]
  dsimp only
  rw [forgets]
  rfl

theorem submitBatch_eq (split : View.split x.view = .ok (first :: rest))
    (kept : c.history = some h) : c.submitBatch x =
      match queue c.site (rest.map x.withView) h with
      | (h, some e) => ⟨{ c with history := some h }, [], .error e⟩
      | (h, none) => { c with history := some h }.submit (x.withView first) := by
  rw [submitBatch, split]
  dsimp only
  rw [kept]
  rfl

theorem submitBatch_error (invalid : x.globals.validate = .error u)
    (split : View.split x.view = .ok (first :: rest)) :
    c.submitBatch x = ⟨c, [], .error (.link (.unusable u))⟩ := by
  cases kept : c.history with
  | none =>
    rw [submitBatch_alone split kept]
    exact c.submit_error invalid
  | some h =>
    have same : { c with history := some h } = c := by rw [← kept]
    rw [submitBatch_eq split kept]
    cases rest with
    | nil =>
      rw [List.map_nil, queue]
      dsimp only
      rw [same]
      exact c.submit_error invalid
    | cons v vs =>
      have refused (w : View) : c.site.encode ((x.withView w).prepare c.site.settings) =
          .error (.unusable u) := c.site.encode_prepare_error (x := x.withView w) rfl invalid
      have none : queue c.site ((v :: vs).map x.withView) h = (h, some (.link (.unusable u))) := by
        apply queue_error
        · exact List.cons_ne_nil _ _
        · exact List.forall_mem_map.mpr fun w _ => refused w
      rw [none]
      dsimp only
      rw [same]

theorem submitBatch_ok (short : x.HasShortIntegers) (valid : x.globals.validate = .ok ())
    (split : View.split x.view = .ok (first :: rest)) :
    (∃ sub, (c.submitBatch x).result = .ok sub) ∨
      (c.submitBatch x).result = .error .limit ∧ c.Uncountable := by
  have alternatives := List.forall_mem_cons.mp (short.withView split)
  cases kept : c.history with
  | none =>
    rw [submitBatch_alone split kept]
    exact c.submit_ok alternatives.1 valid
  | some h =>
    have coded : ∀ y ∈ rest.map x.withView, ∃ e,
        c.site.encode (y.prepare c.site.settings) = .ok e := by
      refine List.forall_mem_map.mpr fun w member => ?_
      obtain ⟨-, e, -, coded⟩ := c.site.exists_encode_prepare (alternatives.2 w member) valid
      exact ⟨e, coded⟩
    rw [submitBatch_eq split kept]
    obtain ⟨k, same, entered | ⟨refused, low⟩⟩ := queue_coded coded h
    · rw [entered]
      rcases Coordinator.submit_ok { c with history := some k } alternatives.1 valid with
        submitted | ⟨limit, l, given, low⟩
      · exact .inl submitted
      · cases given
        exact .inr ⟨limit, h, kept, same ▸ low⟩
    · rw [refused]
      exact .inr ⟨rfl, h, kept, low⟩

end Batch

end Coordinator

/-! ### Flaws -/

namespace Snapshot

inductive IsFlawed (x : Snapshot) : Bool → Prop
  | sampleWithoutSeed {batch : Bool} (size : x.globals.sampleSize.isSome)
      (seed : x.globals.sampleSeed = none) : IsFlawed x batch
  | unknownSampleMode {batch : Bool}
      (mode : x.globals.sampleMode ∉ [SampleMode.percentage, SampleMode.count]) : IsFlawed x batch
  | notSplittable (view : ∀ values within, x.view ≠ some (.extended values within true)) :
      IsFlawed x true
  | nothingToSplit {values : Keyed AnnotationValue} {within : Option String}
      (view : x.view = some (.extended values within true))
      (none : ∀ v ∈ values.values, v.isActive → v.kind ≠ .pos → v.alternatives = []) :
      IsFlawed x true

variable {x : Snapshot} {batch : Bool} {u : Unusable}

theorem isFlawed_of_invalid (invalid : x.globals.validate = .error u) : x.IsFlawed batch := by
  rw [GlobalSettings.validate] at invalid
  split at invalid
  · next sampled =>
    rw [Bool.and_eq_true, Option.isNone_iff_eq_none] at sampled
    exact .sampleWithoutSeed sampled.1 sampled.2
  · split at invalid
    · cases invalid
    · next unknown => exact .unknownSampleMode (by simpa using unknown)

theorem isFlawed_of_unsplit (unsplit : View.split x.view = .error u) : x.IsFlawed true := by
  refine .notSplittable fun values within view => ?_
  rw [view, View.split] at unsplit
  cases unsplit

theorem isFlawed_of_split_nil (split : View.split x.view = .ok []) : x.IsFlawed true := by
  obtain ⟨values, within, view⟩ := View.exists_of_split split
  rw [view] at split
  exact .nothingToSplit view (View.split_eq_nil_iff.mp split)

theorem IsFlawed.found (flawed : x.IsFlawed batch) : (∃ u, x.globals.validate = .error u) ∨
    batch = true ∧ ((∃ u, View.split x.view = .error u) ∨ View.split x.view = .ok []) := by
  cases flawed with
  | sampleWithoutSeed size seed =>
    refine .inl ⟨.sampleWithoutSeed, ?_⟩
    rw [GlobalSettings.validate, size, seed]
    rfl
  | unknownSampleMode mode =>
    simp only [List.mem_cons, List.not_mem_nil, or_false] at mode
    rw [GlobalSettings.validate, if_neg mode]
    split <;> exact .inl ⟨_, rfl⟩
  | notSplittable view =>
    refine .inr ⟨rfl, .inl ⟨.notSplittable, ?_⟩⟩
    rw [View.split.eq_def]
    split
    · next given => exact absurd given (view _ _)
    · rfl
  | nothingToSplit view none =>
    rw [view]
    exact .inr ⟨rfl, .inr (View.split_eq_nil_iff.mpr none)⟩

end Snapshot

namespace Coordinator

variable {x : Snapshot}

def attempt (c : Coordinator) (batch : Bool) (x : Snapshot) : Step :=
  if batch then c.submitBatch x else c.submit x

theorem attempt_of_isFlawed (c : Coordinator) {batch : Bool} (flawed : x.IsFlawed batch) :
    ∃ u, c.attempt batch x = ⟨c, [], .error (.link (.unusable u))⟩ := by
  cases batch with
  | false =>
    obtain ⟨u, invalid⟩ | ⟨other, -⟩ := flawed.found
    · exact ⟨u, c.submit_error invalid⟩
    · cases other
  | true =>
    cases split : View.split x.view with
    | error u => exact ⟨u, by rw [attempt, if_pos rfl, submitBatch, split]⟩
    | ok views =>
      cases views with
      | nil => exact ⟨.nothingToSplit, by rw [attempt, if_pos rfl, submitBatch, split]⟩
      | cons first rest =>
        obtain ⟨u, invalid⟩ | ⟨-, ⟨u, other⟩ | other⟩ := flawed.found
        · exact ⟨u, submitBatch_error invalid split⟩
        · exact nomatch split.symm.trans other
        · exact nomatch split.symm.trans other

theorem attempt_of_not_isFlawed (c : Coordinator) (short : x.HasShortIntegers) {batch : Bool}
    (sound : ¬x.IsFlawed batch) : (∃ sub, (c.attempt batch x).result = .ok sub) ∨
      (c.attempt batch x).result = .error .limit ∧ c.Uncountable := by
  have valid : x.globals.validate = .ok () := by
    cases valid : x.globals.validate with
    | error u => exact absurd (Snapshot.isFlawed_of_invalid valid) sound
    | ok _ => rfl
  cases batch with
  | false => exact c.submit_ok short valid
  | true =>
    cases split : View.split x.view with
    | error u => exact absurd (Snapshot.isFlawed_of_unsplit split) sound
    | ok views =>
      cases views with
      | nil => exact absurd (Snapshot.isFlawed_of_split_nil split) sound
      | cons first rest => exact submitBatch_ok short valid split

/-- A search is refused for its flaws, and then nothing has changed: no address was recorded, no
alternative waits in the history, and nothing is counted. A search without flaws is refused only
where the limit of the history is too low to be counted. -/
theorem refused_unchanged (c : Coordinator) (batch : Bool) (short : x.HasShortIntegers) :
    ((∃ u, (c.attempt batch x).result = .error (.link (.unusable u))) ↔ x.IsFlawed batch) ∧
      ∀ r, (c.attempt batch x).result = .error r →
        (∃ u, r = .link (.unusable u)) ∧ (c.attempt batch x).state = c ∧
            (c.attempt batch x).effects = [] ∨
          r = .limit ∧ c.Uncountable := by
  by_cases flawed : x.IsFlawed batch
  · obtain ⟨u, refused⟩ := c.attempt_of_isFlawed flawed
    rw [refused]
    refine ⟨⟨fun _ => flawed, fun _ => ⟨u, rfl⟩⟩, fun r same => .inl ⟨⟨u, ?_⟩, rfl, rfl⟩⟩
    exact (Except.error.inj same).symm
  · have others (r : Submission.Refusal) (refused : (c.attempt batch x).result = .error r) :
        r = .limit ∧ c.Uncountable := by
      rcases c.attempt_of_not_isFlawed short flawed with ⟨sub, submitted⟩ | ⟨limit, low⟩
      · exact nomatch submitted.symm.trans refused
      · exact ⟨(Except.error.inj (limit.symm.trans refused)).symm, low⟩
    refine ⟨⟨fun ⟨u, refused⟩ => ?_, fun other => absurd other flawed⟩,
      fun r refused => .inr (others r refused)⟩
    cases (others _ refused).1

def batchOf (words : String) : Snapshot :=
  .ofView (.extended (Keyed.ofList [("word", ⟨"word", words, false, .text⟩)]) none true)

def unused : Coordinator := ⟨Site.library, .empty, some (.empty Site.library.settings 3), none⟩

def wordsSearched : Coordinator := (unused.attempt true (batchOf "old|older")).state

/-- None of the words of a batch waits if a sample of their results is not reproducible. -/
theorem refused_unchanged_seedless :
    let x : Snapshot := { batchOf "new|other" with
      globals := { GlobalSettings.initial with sampleSize := some (.int 5) } }
    x.HasShortIntegers ∧
      (∃ u, (wordsSearched.attempt true x).result = .error (.link (.unusable u))) ∧
      (wordsSearched.attempt true x).state = wordsSearched ∧
      (wordsSearched.attempt true x).effects = [] := by
  intro x
  have batch : (batchOf "new|other").HasShortIntegers := Snapshot.hasShortIntegers_ofView nofun
  have five : Numeral.IsShort 5 :=
    Link.isWritten_iff.mp (Link.isWritten_of_small (by decide) (by decide))
  have short : x.HasShortIntegers := { batch with
    sampleSize := fun i same => by
      cases same
      exact five }
  obtain ⟨refuses, unchanged⟩ := refused_unchanged wordsSearched true short
  obtain ⟨u, refused⟩ := refuses.mpr (.sampleWithoutSeed rfl rfl)
  rcases unchanged _ refused with ⟨-, state, effects⟩ | ⟨limit, -⟩
  · exact ⟨short, ⟨u, refused⟩, state, effects⟩
  · cases limit

end Coordinator

end Concordance
