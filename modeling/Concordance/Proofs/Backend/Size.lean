import Concordance.Backend.Rehearsal
import Concordance.Proofs.Backend.Clock
import Concordance.Proofs.Text.NonEmpty

/-! Runs of the counter, with what is noted of them look-up by look-up. A run lets alarms go off in
any order and new filters come at any moment, so that nothing depends on the pause, on how long
replies take, or on what comes first at one moment. -/

namespace Concordance.Backend

namespace Lookup

def Outcome.ofReply : Reply → Outcome
  | .error _ => .size none
  | .ok response =>
    match Counter.sizeOf response with
    | .ok told => .size (some told)
    | .error e => .broken e

theorem Outcome.ofReply_ne (r : Reply) : Outcome.ofReply r ≠ .cancelled := by
  match r with
  | .error e => nofun
  | .ok response =>
    rw [Outcome.ofReply]
    split <;> nofun

def Phase.Awaits : Phase → Signal → Prop
  | created, .start | sleeping, .wake | fetching, .reply _ => True
  | _, _ => False

def found? (l : Lookup) : Option Size :=
  match l.phase with
  | .ended (.size value) => value
  | _ => none

end Lookup

namespace Counter

def sizeIn (r : Reply) : Option Size :=
  match r with
  | .ok response => (sizeOf response).toOption
  | .error _ => none

/-- What is noted of a run. Look-ups are counted from zero; there is one for each new filter. -/
inductive Note
  | updated (lookup : Nat) (filter : Option String)
  | resumed (lookup : Nat)
  | asked (lookup : Nat) (operation : String) (request : Request)
  | answered (lookup : Nat) (r : Reply)
  | published (lookup : Nat) (value : Option Size)
  | failed (lookup : Nat) (e : Error)

namespace Note

def lookup : Note → Nat
  | updated i _ | resumed i | asked i _ _ | answered i _ | published i _ | failed i _ => i

def ofEffect (lookup : Nat) : Effect CounterEvent → Option Note
  | .record (.update value) => some (published lookup value)
  | .record (.error e) => some (failed lookup e)
  | .record (.fetch operation request) | .ask _ operation request =>
    some (asked lookup operation request)
  | _ => none

def ofSignal (lookup : Nat) : Signal → Option Note
  | .wake => some (resumed lookup)
  | .reply r => some (answered lookup r)
  | .start | .cancel => none

def ofReply (lookup : Nat) (r : Reply) : List Note :=
  match r with
  | .error e => [failed lookup e]
  | .ok response =>
    match sizeOf response with
    | .ok size => [published lookup (some size)]
    | .error _ => []

def event? : Note → Option CounterEvent
  | asked _ operation request => some (.fetch operation request)
  | published _ value => some (.update value)
  | failed _ e => some (.error e)
  | updated _ _ | resumed _ | answered _ _ => none

end Note

def notesOfUpdate (c : Counter) (filter : Option String) : List Note :=
  .updated c.lookups.length filter ::
    (c.update filter).2.filterMap (Note.ofEffect c.lookups.length)

def notesOf (c : Counter) (task : Nat) (s : Signal) : List Note :=
  (Note.ofSignal task s).toList ++ (c.resume task s).2.filterMap (Note.ofEffect task)

/-- What can happen to a counter, with what is noted of it. Time may pass at will. -/
inductive Runs (corpus : Corpus) (debounce : Nat) : Rehearsal → List Note → Prop
  | start (script : List Planned) : Runs corpus debounce (.start (ofCorpus corpus) script) []
  | wait {run : Rehearsal} {notes : List Note} {now ticket : Nat}
      (before : Runs corpus debounce run notes) (later : run.now ≤ now)
      (ticketed : run.ticket ≤ ticket) : Runs corpus debounce { run with now, ticket } notes
  | update {run : Rehearsal} {notes : List Note} (before : Runs corpus debounce run notes)
      (filter : Option String) :
      Runs corpus debounce (Rehearsal.act debounce run filter)
        (notes ++ run.state.notesOfUpdate filter)
  | fire {run : Rehearsal} {notes : List Note} {a : Alarm}
      (before : Runs corpus debounce run notes) (set : a ∈ run.alarms) :
      Runs corpus debounce (run.fire (work debounce) a) (notes ++ run.state.notesOf a.task a.signal)

/-! ### The notes of one look-up -/

inductive Traced (corpus : Size) (i : Nat) : Lookup → List Note → Prop
  | waiting {f : Option String} {phase : Lookup.Phase}
      (still : phase = .created ∨ phase = .sleeping ∨ phase = .ended .cancelled) :
      Traced corpus i ⟨f, phase⟩ [.updated i f, .published i none]
  | counted {f : Option String} (free : Text.nonEmpty? f = none) :
      Traced corpus i ⟨f, .ended (.size (some corpus))⟩
        [.updated i f, .published i none, .resumed i, .published i (some corpus)]
  | asked {f : Option String} {text : String} {phase : Lookup.Phase}
      (filled : Text.nonEmpty? f = some text)
      (still : phase = .fetching ∨ phase = .ended .cancelled) :
      Traced corpus i ⟨f, phase⟩
        [.updated i f, .published i none, .resumed i, .asked i "docs" (request text)]
  | answered {f : Option String} {text : String} (filled : Text.nonEmpty? f = some text)
      (r : Reply) :
      Traced corpus i ⟨f, .ended (.ofReply r)⟩
        (.updated i f :: .published i none :: .resumed i :: .asked i "docs" (request text) ::
          .answered i r :: Note.ofReply i r)

section Step

variable {c : Counter} {ls : List Lookup} {l : Lookup} {s : Signal} {own : List Note}

theorem modify_last (ls : List Lookup) (l : Lookup) (f : Lookup → Lookup) :
    (ls ++ [l]).modify ls.length f = ls ++ [f l] := by
  induction ls with
  | nil => rfl
  | cons k ls ih => exact congrArg (k :: ·) ih

theorem setPhase_last (last : c.lookups = ls ++ [l]) (phase : Lookup.Phase) :
    c.setPhase ls.length phase = { c with lookups := ls ++ [{ l with phase }] } := by
  rw [setPhase, last, modify_last]

theorem found?_ofReply (f : Option String) (r : Reply) :
    Lookup.found? ⟨f, .ended (.ofReply r)⟩ = sizeIn r := by
  match r with
  | .error e => rfl
  | .ok response =>
    simp only [Lookup.found?, Lookup.Outcome.ofReply, sizeIn]
    cases sizeOf response <;> rfl

theorem resume_cancel (c : Counter) (task : Nat) : c.resume task .cancel = (c, []) := by
  rw [resume]
  cases c.lookups[task]? with
  | none => rfl
  | some l => obtain ⟨f, phase⟩ := l; cases phase <;> rfl

theorem resume_wake {task : Nat} {f : Option String}
    (stands : c.lookups[task]? = some ⟨f, .sleeping⟩) : c.resume task .wake =
      match Text.nonEmpty? f with
      | none => c.publish task c.corpus
      | some text => (c.setPhase task .fetching, [.ask task "docs" (request text)]) := by
  rw [resume, stands]
  cases f with
  | none => rfl
  | some text =>
    rw [Text.nonEmpty?_some]
    dsimp only
    split <;> rfl

theorem receive_eq (c : Counter) (task : Nat) (r : Reply) : ∃ effects : Effects,
    c.receive task r = ({ c.setPhase task (.ended (.ofReply r)) with
      value := (sizeIn r).or c.value }, effects) ∧
      effects.filterMap (Note.ofEffect task) = Note.ofReply task r ∧
      ∀ e ∈ effects, ∃ event, e = .record event := by
  match r with
  | .error e => exact ⟨_, rfl, rfl, List.forall_mem_singleton.mpr ⟨_, rfl⟩⟩
  | .ok response =>
    simp only [receive, Lookup.Outcome.ofReply, sizeIn, Note.ofReply]
    cases sizeOf response with
    | ok told => exact ⟨_, rfl, rfl, List.forall_mem_singleton.mpr ⟨_, rfl⟩⟩
    | error e => exact ⟨_, rfl, rfl, List.forall_mem_nil _⟩

inductive Asks (i : Nat) : Lookup.Phase → Effects → Prop
  | nothing {outcome : Lookup.Outcome} {effects : Effects} (other : outcome ≠ .cancelled)
      (told : ∀ e ∈ effects, ∃ event, e = .record event) : Asks i (.ended outcome) effects
  | pause : Asks i .sleeping [.pause i]
  | reply (operation : String) (request : Request) :
      Asks i .fetching [.ask i operation request]

theorem Asks.ne_cancelled {i : Nat} {phase : Lookup.Phase} {effects : Effects}
    (asks : Asks i phase effects) : phase ≠ .ended .cancelled := by
  cases asks with
  | nothing other _ => exact fun same => other (Lookup.Phase.ended.inj same)
  | pause => nofun
  | reply _ _ => nofun

theorem resume_last (last : c.lookups = ls ++ [l]) (awaits : l.phase.Awaits s)
    (traced : Traced c.corpus ls.length l own) (unknown : c.value = none) : ∃ phase,
    (c.resume ls.length s).1 = { c with
      lookups := ls ++ [⟨l.filter, phase⟩]
      value := Lookup.found? ⟨l.filter, phase⟩ } ∧
    Traced c.corpus ls.length ⟨l.filter, phase⟩ (own ++ c.notesOf ls.length s) ∧
    Asks ls.length phase (c.resume ls.length s).2 := by
  have stands : c.lookups[ls.length]? = some l := by rw [last, List.getElem?_concat_length]
  obtain ⟨f, phase⟩ := l
  rw [notesOf]
  match phase, s, awaits with
  | .created, .start, _ =>
    have step : c.resume ls.length .start =
        (c.setPhase ls.length .sleeping, [.pause ls.length]) := by
      rw [resume, stands]
    refine ⟨.sleeping, ?_, ?_, ?_⟩
    · rw [step, setPhase_last last]
      simp [Lookup.found?, unknown]
    · rw [step]
      cases traced with
      | waiting _ => exact .waiting (.inr (.inl rfl))
      | asked _ still => cases still <;> contradiction
    · rw [step]
      exact .pause
  | .sleeping, .wake, _ =>
    have step := resume_wake stands
    cases traced with
    | asked _ still => cases still <;> contradiction
    | waiting _ =>
      cases filter : Text.nonEmpty? f with
      | none =>
        rw [filter] at step
        refine ⟨.ended (.size (some c.corpus)), ?_, ?_, ?_⟩
        · rw [step, publish, setPhase_last last]
          rfl
        · rw [step]
          exact .counted filter
        · rw [step]
          exact .nothing nofun (List.forall_mem_singleton.mpr ⟨_, rfl⟩)
      | some text =>
        rw [filter] at step
        refine ⟨.fetching, ?_, ?_, ?_⟩
        · rw [step]
          dsimp only
          rw [setPhase_last last]
          simp [Lookup.found?, unknown]
        · rw [step]
          exact .asked filter (.inl rfl)
        · rw [step]
          exact .reply _ _
  | .fetching, .reply r, _ =>
    have step : c.resume ls.length (.reply r) = c.receive ls.length r := by
      rw [resume, stands]
    obtain ⟨effects, received, notes, told⟩ := receive_eq c ls.length r
    rw [received] at step
    cases traced with
    | waiting still => rcases still with still | still | still <;> cases still
    | asked filled _ =>
      refine ⟨.ended (.ofReply r), ?_, ?_, ?_⟩
      · rw [step, setPhase_last last, unknown, Option.or_none, found?_ofReply]
      · rw [step, notes]
        exact .answered filled r
      · rw [step]
        exact .nothing (Lookup.Outcome.ofReply_ne r) told

end Step

/-! ### Runs -/

/-- The notes stand in blocks, one for each look-up. Only the last look-up may be under way. -/
inductive Blocks (corpus : Size) : List Lookup → List Note → Prop
  | nil : Blocks corpus [] []
  | snoc {ls : List Lookup} {l : Lookup} {notes own : List Note} (before : Blocks corpus ls notes)
      (ended : ∀ k ∈ ls, k.phase.isLive = false) (traced : Traced corpus ls.length l own) :
      Blocks corpus (ls ++ [l]) (notes ++ own)

inductive Attended : List Lookup → List Alarm → Prop
  | idle {ls : List Lookup} (ended : ∀ l ∈ ls, l.phase.isLive = false) : Attended ls []
  | awaited {ls : List Lookup} {l : Lookup} {a : Alarm} (own : a.task = ls.length)
      (awaits : l.phase.Awaits a.signal) : Attended (ls ++ [l]) [a]

structure Consistent (corpus : Size) (run : Rehearsal) (notes : List Note) : Prop where
  same : run.state.corpus = corpus
  blocks : Blocks corpus run.state.lookups notes
  value : run.state.value = run.state.lookups.getLast?.bind Lookup.found?
  kept : ∀ l ∈ run.state.lookups.getLast?, l.phase ≠ .ended .cancelled
  attended : Attended run.state.lookups run.waking
  ticketed : run.Ticketed

section Invariant

variable {corpus : Size} {run : Rehearsal} {notes : List Note} {ls : List Lookup} {l : Lookup}
  {a : Alarm}

theorem Blocks.last (h : Blocks corpus (ls ++ [l]) notes) : ∃ old own, notes = old ++ own ∧
    Blocks corpus ls old ∧ (∀ k ∈ ls, k.phase.isLive = false) ∧ Traced corpus ls.length l own := by
  generalize shape : ls ++ [l] = ks at h
  cases h with
  | nil => exact absurd shape (List.append_ne_nil_of_right_ne_nil _ (List.cons_ne_nil _ _))
  | snoc before ended traced =>
    obtain ⟨rfl, same⟩ := List.append_inj' shape rfl
    cases same
    exact ⟨_, _, rfl, before, ended, traced⟩

theorem Attended.of_mem {alarms : List Alarm} (h : Attended ls alarms) (member : a ∈ alarms) :
    ∃ ks k, ls = ks ++ [k] ∧ alarms = [a] ∧ a.task = ks.length ∧ k.phase.Awaits a.signal := by
  cases h with
  | idle ended => cases member
  | awaited own awaits =>
    cases List.mem_singleton.mp member
    exact ⟨_, _, rfl, rfl, own, awaits⟩

theorem isLive_of_awaits {s : Signal} (awaits : l.phase.Awaits s) : l.phase.isLive := by
  obtain ⟨f, phase⟩ := l
  cases phase with
  | ended outcome => cases s <;> cases awaits
  | _ => rfl

theorem consistent_start (corpus : Corpus) (script : List Planned) :
    Consistent ⟨corpus.documents, corpus.tokens⟩ (.start (ofCorpus corpus) script) [] :=
  ⟨rfl, .nil, rfl, nofun, .idle nofun, Run.ticketed_start _ _⟩

theorem Consistent.wait (h : Consistent corpus run notes) {now ticket : Nat}
    (later : run.ticket ≤ ticket) : Consistent corpus { run with now, ticket } notes :=
  ⟨h.same, h.blocks, h.value, h.kept, h.attended, h.ticketed.sublist (List.Sublist.refl _) later⟩

theorem attended_asks {task : Nat} {phase : Lookup.Phase} {effects : Effects} (f : Option String)
    (debounce : Nat) (own : task = ls.length) (asks : Asks task phase effects)
    (ended : ∀ k ∈ ls, k.phase.isLive = false) (quiet : run.waking = []) (ticketed : run.Ticketed) :
    Attended (ls ++ [⟨f, phase⟩]) (run.performAll (work debounce) effects).waking ∧
      (run.performAll (work debounce) effects).Ticketed := by
  subst own
  cases asks with
  | nothing other told =>
    obtain ⟨alarms, ticket⟩ := Run.alarms_performAll (w := work debounce) run told
    rw [Run.waking, alarms]
    refine ⟨?_, ticketed.sublist (alarms ▸ List.Sublist.refl _) (Nat.le_of_eq ticket.symm)⟩
    rw [show run.alarms.filter _ = [] from quiet]
    apply Attended.idle
    intro k member
    rcases List.mem_append.mp member with old | new
    · exact ended k old
    · rw [List.mem_singleton.mp new]
      rfl
  | pause =>
    refine ⟨?_, ticketed.set _ _ _⟩
    change Attended _ (run.set debounce ls.length .wake).waking
    rw [Run.waking_set _ _ _ _ rfl, quiet]
    exact .awaited rfl trivial
  | reply operation request =>
    let asked : Rehearsal :=
      { run.record (.fetch operation request) with script := run.script.tail }
    have still : asked.Ticketed := ticketed.sublist (List.Sublist.refl _) (Nat.le_refl _)
    refine ⟨?_, still.answer quiet ls.length (run.script.headD Run.scriptEnd)⟩
    obtain ⟨ticket, waking⟩ :=
      asked.waking_answer quiet ls.length (run.script.headD Run.scriptEnd)
    change Attended _ (asked.answer ls.length (run.script.headD Run.scriptEnd)).waking
    rw [waking]
    exact .awaited rfl trivial

theorem Consistent.fire_cancel (h : Consistent corpus run notes) (debounce : Nat)
    (set : a ∈ run.cancelling) :
    Consistent corpus (run.fire (work debounce) a)
      (notes ++ run.state.notesOf a.task a.signal) := by
  have signal := (Run.signal_of_cancelling set).2
  have silent : run.state.resume a.task a.signal = (run.state, []) := by
    rw [signal, resume_cancel]
  have unnoted : run.state.notesOf a.task a.signal = [] := by
    rw [notesOf, silent, signal]
    rfl
  have fired : run.fire (work debounce) a = run.passed run.state a :=
    Run.fire_eq (w := work debounce) silent
  have waking := h.ticketed.waking_passed set run.state
  rw [fired, unnoted, List.append_nil]
  exact ⟨h.same, h.blocks, h.value, h.kept, waking.symm ▸ h.attended, h.ticketed.passed run.state a⟩

theorem Consistent.fire_waking (h : Consistent corpus run notes) (debounce : Nat)
    (member : a ∈ run.waking) :
    Consistent corpus (run.fire (work debounce) a)
      (notes ++ run.state.notesOf a.task a.signal) := by
  obtain ⟨ls, l, last, only, own, awaits⟩ := h.attended.of_mem member
  obtain ⟨old, noted, rfl, before, ended, traced⟩ := (last ▸ h.blocks).last
  have unknown : run.state.value = none := by
    rw [h.value, last, List.getLast?_concat, Option.bind_some, Lookup.found?]
    have live := isLive_of_awaits awaits
    split
    · next ended =>
      rw [ended] at live
      cases live
    · rfl
  rw [← h.same] at traced
  obtain ⟨phase, state, later, asks⟩ := resume_last last awaits traced unknown
  rw [← own] at state later asks
  have fired : (run.fire (work debounce) a).state = _ := (Run.state_fire run a).trans state
  have quiet := Run.waking_passed only (run.state.resume a.task a.signal).1
  have still := h.ticketed.passed (run.state.resume a.task a.signal).1 a
  obtain ⟨attended, ticketed⟩ := attended_asks l.filter debounce own asks ended quiet still
  refine ⟨?_, ?_, ?_, ?_, ?_, ticketed⟩
  · rw [fired]
    exact h.same
  · rw [fired, List.append_assoc]
    refine .snoc before ended ?_
    rw [← h.same, ← own]
    exact later
  · rw [fired, List.getLast?_concat]
    rfl
  · rw [fired, List.getLast?_concat]
    rintro _ ⟨⟩
    exact asks.ne_cancelled
  · rw [fired]
    exact attended

theorem Consistent.fire (h : Consistent corpus run notes) (debounce : Nat) (set : a ∈ run.alarms) :
    Consistent corpus (run.fire (work debounce) a)
      (notes ++ run.state.notesOf a.task a.signal) := by
  rcases Run.waking_or_cancelling set with wakes | cancels
  · exact h.fire_waking debounce wakes
  · exact h.fire_cancel debounce cancels

theorem Consistent.cancel (h : Consistent corpus run notes) : ∃ ks effects,
    run.state.cancel (run.state.lookups.length - 1) = ({ run.state with lookups := ks }, effects) ∧
      ks.length = run.state.lookups.length ∧ (∀ k ∈ ks, k.phase.isLive = false) ∧
      Blocks corpus ks notes ∧
      (effects = [] ∧ run.waking = [] ∨
        ∃ task, effects = [.cancel task] ∧ ∀ a ∈ run.waking, a.task = task) := by
  have attended := h.attended
  have blocks := h.blocks
  generalize waiting : run.waking = alarms at attended
  generalize all : run.state.lookups = lookups at attended blocks
  cases attended with
  | idle ended =>
    refine ⟨lookups, [], ?_, rfl, ended, blocks, .inl ⟨rfl, rfl⟩⟩
    rw [Counter.cancel, all]
    split
    · next l stands =>
      rw [ended l (List.mem_of_getElem? stands), if_neg Bool.false_ne_true, ← all]
    · rw [← all]
  | @awaited ls l a own awaits =>
    obtain ⟨old, noted, rfl, before, ended, traced⟩ := blocks.last
    have live := isLive_of_awaits awaits
    have stands : run.state.lookups[ls.length]? = some l := by
      rw [all, List.getElem?_concat_length]
    have place : (ls ++ [l]).length - 1 = ls.length := by simp
    refine ⟨ls ++ [⟨l.filter, .ended .cancelled⟩], [.cancel ls.length], ?_, ?_, ?_, ?_, .inr ?_⟩
    · rw [place, Counter.cancel, stands]
      dsimp only
      rw [live, if_pos rfl, setPhase_last all]
    · simp
    · intro k member
      rcases List.mem_append.mp member with old | new
      · exact ended k old
      · rw [List.mem_singleton.mp new]
        rfl
    · refine .snoc before ended ?_
      obtain ⟨f, phase⟩ := l
      cases traced with
      | waiting _ => exact .waiting (.inr (.inr rfl))
      | counted _ => cases live
      | asked filled _ => exact .asked filled (.inr rfl)
      | answered _ r => cases live
    · exact ⟨ls.length, rfl, List.forall_mem_singleton.mpr own⟩

theorem Consistent.update (h : Consistent corpus run notes) (debounce : Nat)
    (filter : Option String) :
    Consistent corpus (Rehearsal.act debounce run filter)
      (notes ++ run.state.notesOfUpdate filter) := by
  obtain ⟨ks, effects, cancelled, length, ended, blocks, ends⟩ := h.cancel
  have step : run.state.update filter = ({ run.state with
      value := none
      lookups := ks ++ [⟨filter, .created⟩] },
      effects ++ [.record (.update none), .spawn ks.length]) := by
    rw [Counter.update, cancelled]
  have noted : run.state.notesOfUpdate filter =
      [.updated ks.length filter, .published ks.length none] := by
    rw [notesOfUpdate, step, ← length, List.filterMap_append]
    rcases ends with ⟨rfl, -⟩ | ⟨task, rfl, -⟩ <;> rfl
  let begun : Rehearsal := { run with state := (run.state.update filter).1 }
  -- whatever the look-up before was waiting for does not wake it any more
  have quiet : (begun.performAll (work debounce) effects).waking = [] ∧
      (begun.performAll (work debounce) effects).Ticketed := by
    have still : begun.Ticketed := h.ticketed.sublist (List.Sublist.refl _) (Nat.le_refl _)
    rcases ends with ⟨rfl, idle⟩ | ⟨task, rfl, all⟩
    · exact ⟨idle, still⟩
    · change (begun.perform (work debounce) (.cancel task)).waking = [] ∧
        (begun.perform (work debounce) (.cancel task)).Ticketed
      exact ⟨Run.waking_cancel all, still.cancel task⟩
  have acted : Rehearsal.act debounce run filter =
      (((begun.performAll (work debounce) effects).record (.update none)).set 0 ks.length
        .start).record (.updated filter) := by
    rw [Rehearsal.act, step]
    simp only [begun, step, Run.performAll, List.foldl_append, List.foldl_cons, List.foldl_nil]
    rfl
  have state : (Rehearsal.act debounce run filter).state =
      { run.state with value := none, lookups := ks ++ [⟨filter, .created⟩] } := by
    rw [acted]
    refine (Run.state_performAll begun effects).trans ?_
    exact congrArg Prod.fst step
  refine ⟨?_, ?_, ?_, ?_, ?_, ?_⟩
  · rw [state]
    exact h.same
  · rw [state, noted]
    exact .snoc blocks ended (.waiting (.inl rfl))
  · rw [state, List.getLast?_concat]
    rfl
  · rw [state, List.getLast?_concat]
    rintro _ ⟨⟩ same
    cases same
  · rw [state, acted]
    change Attended _ (Run.set _ 0 ks.length .start).waking
    rw [Run.waking_set _ _ _ _ rfl]
    change Attended _ ((begun.performAll (work debounce) effects).waking ++ _)
    rw [quiet.1]
    exact .awaited rfl trivial
  · rw [acted]
    have recorded : Run.Ticketed
        ((begun.performAll (work debounce) effects).record (.update none)) :=
      quiet.2.sublist (List.Sublist.refl _) (Nat.le_refl _)
    exact (recorded.set 0 ks.length .start).sublist (List.Sublist.refl _) (Nat.le_refl _)

theorem Runs.consistent {corpus : Corpus} {debounce : Nat} (runs : Runs corpus debounce run notes) :
    Consistent ⟨corpus.documents, corpus.tokens⟩ run notes := by
  induction runs with
  | start script => exact consistent_start corpus script
  | wait _ _ ticketed before => exact before.wait ticketed
  | update _ filter before => exact before.update debounce filter
  | fire _ set before => exact before.fire debounce set

end Invariant

end Counter

end Concordance.Backend
