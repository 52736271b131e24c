import Concordance.Proofs.Backend.Size

/-! Only the size under the latest filter is shown, in every run of the counter, whatever the pause,
the replies and the order in which things happen. -/

namespace Concordance.Backend

def CounterEvent.isTold : CounterEvent → Bool
  | update _ | fetch _ _ | error _ => true
  | updated _ | ended _ => false

namespace Counter

section Notes

variable {corpus : Size} {i : Nat} {l : Lookup} {ls : List Lookup} {notes own : List Note}
  {n : Note}

theorem of_mem_ofReply {r : Reply} (member : n ∈ Note.ofReply i r) :
    (∃ e, n = .failed i e) ∨ ∃ size, n = .published i (some size) := by
  match r with
  | .error e => exact .inl ⟨e, List.mem_singleton.mp member⟩
  | .ok response =>
    rw [Note.ofReply] at member
    split at member
    · next size _ => exact .inr ⟨size, List.mem_singleton.mp member⟩
    · cases member

theorem Traced.exists_rest (h : Traced corpus i l own) : ∃ rest,
    own = .updated i l.filter :: .published i none :: rest ∧
      ∀ n ∈ rest, n.lookup = i ∧ ∀ f, n ≠ .updated i f := by
  cases h with
  | waiting _ => exact ⟨[], rfl, nofun⟩
  | counted _ => exact ⟨_, rfl, by simp [Note.lookup]⟩
  | asked _ _ => exact ⟨_, rfl, by simp [Note.lookup]⟩
  | answered _ r =>
    refine ⟨_, rfl, ?_⟩
    simp only [List.forall_mem_cons]
    refine ⟨⟨rfl, nofun⟩, ⟨rfl, nofun⟩, ⟨rfl, nofun⟩, fun n member => ?_⟩
    rcases of_mem_ofReply member with ⟨e, rfl⟩ | ⟨size, rfl⟩ <;> exact ⟨rfl, nofun⟩

theorem Traced.lookup (h : Traced corpus i l own) (member : n ∈ own) : n.lookup = i := by
  obtain ⟨rest, rfl, others⟩ := h.exists_rest
  rcases List.mem_cons.mp member with rfl | member
  · rfl
  · rcases List.mem_cons.mp member with rfl | member
    · rfl
    · exact (others n member).1

theorem Blocks.lookup_lt (h : Blocks corpus ls notes) (member : n ∈ notes) :
    n.lookup < ls.length := by
  induction h with
  | nil => cases member
  | snoc _ _ traced ih =>
    rw [List.length_append, List.length_singleton]
    rcases List.mem_append.mp member with old | new
    · exact Nat.lt_succ_of_lt (ih old)
    · exact Nat.lt_succ_of_le (Nat.le_of_eq (traced.lookup new))

theorem Blocks.ordered (h : Blocks corpus ls notes) :
    notes.Pairwise fun m n => m.lookup ≤ n.lookup := by
  induction h with
  | nil => exact .nil
  | snoc before _ traced ih =>
    refine List.pairwise_append.mpr ⟨ih, ?_, ?_⟩
    · refine List.pairwise_iff_forall_sublist.mpr fun {m n} pair => ?_
      have here (k : Note) (member : k ∈ [m, n]) := traced.lookup (pair.subset member)
      exact Nat.le_of_eq ((here m (by simp)).trans (here n (by simp)).symm)
    · intro m old n new
      rw [traced.lookup new]
      exact Nat.le_of_lt (before.lookup_lt old)

theorem Blocks.traced (h : Blocks corpus ls notes) (stands : ls[i]? = some l) :
    Traced corpus i l (notes.filter (·.lookup = i)) := by
  induction h with
  | nil => cases stands
  | @snoc ls k notes own before _ traced ih =>
    rw [List.filter_append]
    by_cases earlier : i < ls.length
    · have others : own.filter (·.lookup = i) = [] := by
        refine List.filter_eq_nil_iff.mpr fun n member => ?_
        simp [traced.lookup member, Nat.ne_of_gt earlier]
      rw [others, List.append_nil]
      exact ih (List.getElem?_append_left earlier ▸ stands)
    · have place : i = ls.length := by
        have bound := (List.getElem?_eq_some_iff.mp stands).1
        rw [List.length_append, List.length_singleton] at bound
        omega
      subst place
      have others : notes.filter (·.lookup = ls.length) = [] := by
        refine List.filter_eq_nil_iff.mpr fun n member => ?_
        simp [Nat.ne_of_lt (before.lookup_lt member)]
      have all : own.filter (·.lookup = ls.length) = own := by
        refine List.filter_eq_self.mpr fun n member => ?_
        simp [traced.lookup member]
      rw [List.getElem?_concat_length, Option.some.injEq] at stands
      rw [others, List.nil_append, all, ← stands]
      exact traced

theorem mem_own_iff : n ∈ notes ↔ n ∈ notes.filter (·.lookup = n.lookup) := by
  simp

theorem Blocks.updated_iff (h : Blocks corpus ls notes) {f : Option String} :
    .updated i f ∈ notes ↔ ∃ l, ls[i]? = some l ∧ l.filter = f := by
  rw [mem_own_iff]
  constructor
  · intro member
    have bound : i < ls.length := h.lookup_lt (List.mem_of_mem_filter member)
    have stands : ls[i]? = some ls[i] := List.getElem?_eq_getElem bound
    refine ⟨_, stands, ?_⟩
    obtain ⟨rest, shape, others⟩ := (h.traced stands).exists_rest
    change _ ∈ notes.filter (·.lookup = i) at member
    rw [shape, List.mem_cons, List.mem_cons] at member
    rcases member with same | same | later
    · cases same
      rfl
    · cases same
    · exact absurd rfl ((others _ later).2 f)
  · rintro ⟨l, stands, rfl⟩
    obtain ⟨rest, shape, -⟩ := (h.traced stands).exists_rest
    change _ ∈ notes.filter (·.lookup = i)
    rw [shape]
    exact List.mem_cons_self

theorem Blocks.le_lookup (h : Blocks corpus ls notes) {before after : List Note} {m : Note}
    (shape : notes = before ++ m :: after) (member : n ∈ after) : m.lookup ≤ n.lookup := by
  have ordered := h.ordered
  rw [shape] at ordered
  exact (List.pairwise_cons.mp (List.pairwise_append.mp ordered).2.1).1 n member

theorem Blocks.around_updated (h : Blocks corpus ls notes) {f : Option String}
    {before after : List Note} (shape : notes = before ++ .updated i f :: after) :
    (∀ n ∈ before, n.lookup < i) ∧ ∃ rest, after = .published i none :: rest := by
  induction h generalizing after with
  | nil => simp at shape
  | @snoc ls l notes own blocks _ traced ih =>
    obtain ⟨rest, rfl, others⟩ := traced.exists_rest
    -- the new filter is in an earlier block, or it begins the last one
    rcases List.append_eq_append_iff.mp shape with ⟨early, rfl, tail⟩ | ⟨late, rfl, tail⟩
    · match early, tail with
      | [], tail =>
        cases tail
        exact ⟨fun n member => blocks.lookup_lt (List.append_nil notes ▸ member), rest, rfl⟩
      | [_], tail => cases tail
      | _ :: _ :: early, tail =>
        simp only [List.cons_append, List.cons.injEq] at tail
        have member : .updated i f ∈ rest := tail.2.2 ▸ List.mem_append_right _ List.mem_cons_self
        have here : i = ls.length := (others _ member).1
        exact absurd (congrArg (Note.updated · f) here) ((others _ member).2 f)
    · match late, tail with
      | [], tail =>
        cases tail
        exact ⟨fun n member => blocks.lookup_lt (List.mem_append_left _ member), rest, rfl⟩
      | _ :: late, tail =>
        cases tail
        obtain ⟨older, rest, rfl⟩ := ih rfl
        exact ⟨older, _, rfl⟩

end Notes

/-! ### What a look-up asks, shows and finds -/

/-- A new filter came before the look-up was over its pause. -/
def Superseded (notes : List Note) (i : Nat) : Prop :=
  ∃ before j f after, notes = before ++ .updated j f :: after ∧ i < j ∧ .resumed i ∉ before

def IsLatest (notes : List Note) (i : Nat) (f : Option String) : Prop :=
  .updated i f ∈ notes ∧ ∀ j g, .updated j g ∈ notes → j ≤ i

def Note.request? (i : Nat) : Note → Option (String × Request)
  | asked j operation request => if j = i then some (operation, request) else none
  | _ => none

def requestsOf (notes : List Note) (i : Nat) : List (String × Request) :=
  notes.filterMap (·.request? i)

section Own

variable {corpus : Size} {i : Nat} {l : Lookup} {notes own : List Note}

theorem requestsOf_own (notes : List Note) (i : Nat) :
    requestsOf (notes.filter (·.lookup = i)) i = requestsOf notes i := by
  induction notes with
  | nil => rfl
  | cons n notes ih =>
    by_cases same : n.lookup = i
    · simp only [requestsOf, List.filter_cons, same, decide_true, if_true, List.filterMap_cons]
      rw [← requestsOf, ih, ← requestsOf]
    · have unasked : n.request? i = none := by
        cases n with
        | asked j _ _ => exact if_neg same
        | _ => rfl
      simpa [requestsOf, List.filter_cons, same, unasked] using ih

theorem requestsOf_ofReply (r : Reply) : requestsOf (Note.ofReply i r) i = [] := by
  refine List.filterMap_eq_nil_iff.mpr fun n member => ?_
  rcases of_mem_ofReply member with ⟨e, rfl⟩ | ⟨size, rfl⟩ <;> rfl

theorem Traced.issued (h : Traced corpus i l own) {text : String}
    (filled : Text.nonEmpty? l.filter = some text) (resumed : .resumed i ∈ own) :
    requestsOf own i = [("docs", request text)] := by
  cases h with
  | waiting _ => simp at resumed
  | counted free => rw [free] at filled; cases filled
  | asked other _ =>
    cases other.symm.trans filled
    simp [requestsOf, Note.request?]
  | answered other r =>
    cases other.symm.trans filled
    have asks : (Note.asked i "docs" (request text)).request? i = some ("docs", request text) :=
      if_pos rfl
    simp only [requestsOf, List.filterMap_cons, asks]
    exact congrArg (_ :: ·) (requestsOf_ofReply r)

theorem Traced.unissued (h : Traced corpus i l own)
    (unasked : Text.nonEmpty? l.filter = none ∨ .resumed i ∉ own) : requestsOf own i = [] := by
  cases h with
  | waiting _ => rfl
  | counted _ => rfl
  | asked filled _ =>
    rcases unasked with free | unresumed
    · rw [filled] at free; cases free
    · simp at unresumed
  | answered filled r =>
    rcases unasked with free | unresumed
    · rw [filled] at free; cases free
    · simp at unresumed

theorem Traced.resumed (h : Traced corpus i l own) (ended : l.phase.isLive = false)
    (kept : l.phase ≠ .ended .cancelled) : .resumed i ∈ own := by
  cases h with
  | waiting still =>
    rcases still with rfl | rfl | rfl
    · cases ended
    · cases ended
    · exact absurd rfl kept
  | _ => simp

theorem Traced.published (h : Traced corpus i l own) {size : Size}
    (found : l.found? = some size) : .published i (some size) ∈ own := by
  cases h with
  | waiting still => rcases still with rfl | rfl | rfl <;> cases found
  | counted _ =>
    cases found
    simp
  | asked _ still => rcases still with rfl | rfl <;> cases found
  | @answered f _ _ r =>
    rw [found?_ofReply] at found
    match r with
    | .error e => cases found
    | .ok response =>
      simp only [sizeIn] at found
      cases told : sizeOf response with
      | error e => rw [told] at found; cases found
      | ok value =>
        rw [told] at found
        cases found
        simp [Note.ofReply, told]

theorem Traced.found (h : Traced corpus i l own) (ended : l.phase.isLive = false)
    (kept : l.phase ≠ .ended .cancelled) :
    match Text.nonEmpty? l.filter with
    | none => l.found? = some corpus
    | some _ => (∃ r, .answered i r ∈ own) ∧ ∀ r, .answered i r ∈ own → l.found? = sizeIn r := by
  cases h with
  | waiting still =>
    rcases still with rfl | rfl | rfl
    · cases ended
    · cases ended
    · exact absurd rfl kept
  | counted free => rw [free]; rfl
  | asked _ still =>
    rcases still with rfl | rfl
    · cases ended
    · exact absurd rfl kept
  | answered filled r =>
    rw [filled]
    refine ⟨⟨r, by simp⟩, fun other member => ?_⟩
    have same : other = r := by
      simp only [List.mem_cons, reduceCtorEq, Note.answered.injEq, true_and, false_or] at member
      rcases member with same | later
      · exact same
      · rcases of_mem_ofReply later with ⟨e, shape⟩ | ⟨size, shape⟩ <;> cases shape
    rw [found?_ofReply, same]

end Own

/-! ### The latest filter -/

structure ShowsLatest (corpus : Size) (run : Rehearsal) (notes : List Note) : Prop where
  /-- The notes leave out nothing that is passed on or asked for. -/
  told : (run.log.map (·.2)).filter CounterEvent.isTold = notes.filterMap Note.event?
  /-- Each new filter clears the size before anything else is heard of its look-up. -/
  cleared : ∀ before i f after, notes = before ++ .updated i f :: after →
    (∀ n ∈ before, n.lookup < i) ∧ ∃ rest, after = .published i none :: rest
  /-- No look-up before it is heard of any more. -/
  latest : ∀ before i f after, notes = before ++ .updated i f :: after →
    ∀ n ∈ after, i ≤ n.lookup
  stored : ∀ size, run.state.value = some size →
    ∃ i f, IsLatest notes i f ∧ .published i (some size) ∈ notes
  issued : ∀ i f text, .updated i f ∈ notes → Text.nonEmpty? f = some text →
    .resumed i ∈ notes → requestsOf notes i = [("docs", request text)]
  unissued : ∀ i f, .updated i f ∈ notes → Text.nonEmpty? f = none ∨ .resumed i ∉ notes →
    requestsOf notes i = []
  superseded : ∀ i, Superseded notes i → .resumed i ∉ notes
  /-- A run that has come to its end has let every look-up go on that was not superseded. -/
  resumed : run.alarms = [] → ∀ i f, .updated i f ∈ notes → ¬Superseded notes i →
    .resumed i ∈ notes
  ended : run.alarms = [] → ∀ l ∈ run.state.lookups, l.phase.isLive = false
  settled : ∀ i f, IsLatest notes i f →
    (∃ l, run.state.lookups[i]? = some l ∧ l.phase.isLive = false) →
    match Text.nonEmpty? f with
    | none => run.state.value = some corpus
    | some _ => (∃ r, .answered i r ∈ notes) ∧
      ∀ r, .answered i r ∈ notes → run.state.value = sizeIn r

section Latest

variable {corpus : Size} {run : Rehearsal} {notes : List Note} {i : Nat} {f : Option String}

theorem Consistent.ended (h : Consistent corpus run notes) (quiet : run.alarms = []) :
    ∀ l ∈ run.state.lookups, l.phase.isLive = false := by
  have attended := h.attended
  rw [Run.waking, quiet, List.filter_nil] at attended
  generalize run.state.lookups = ls at attended
  cases attended with
  | idle ended => exact ended

theorem Blocks.isLatest_iff {ls : List Lookup} (h : Blocks corpus ls notes) :
    IsLatest notes i f ↔ i + 1 = ls.length ∧ ∃ l, ls[i]? = some l ∧ l.filter = f := by
  rw [IsLatest, h.updated_iff]
  constructor
  · rintro ⟨⟨l, stands, filter⟩, latest⟩
    have bound : i < ls.length := (List.getElem?_eq_some_iff.mp stands).1
    have last : ls[ls.length - 1]? = some ls[ls.length - 1] := List.getElem?_eq_getElem (by omega)
    have later := latest _ _ (h.updated_iff.mpr ⟨_, last, rfl⟩)
    exact ⟨by omega, l, stands, filter⟩
  · rintro ⟨place, stands⟩
    refine ⟨stands, fun j g member => ?_⟩
    have bound : j < ls.length := h.lookup_lt member
    omega

theorem Consistent.exists_last (h : Consistent corpus run notes) (latest : IsLatest notes i f) :
    ∃ l, run.state.lookups[i]? = some l ∧ l.filter = f ∧
      run.state.value = l.found? ∧ l.phase ≠ .ended .cancelled := by
  obtain ⟨place, l, stands, filter⟩ := h.blocks.isLatest_iff.mp latest
  have last : run.state.lookups.getLast? = some l := by
    rw [List.getLast?_eq_getElem?, ← place, Nat.add_sub_cancel]
    exact stands
  exact ⟨l, stands, filter, by rw [h.value, last]; rfl, h.kept l last⟩

theorem Consistent.stored (h : Consistent corpus run notes) {size : Size}
    (value : run.state.value = some size) :
    ∃ i f, IsLatest notes i f ∧ .published i (some size) ∈ notes := by
  rw [h.value, List.getLast?_eq_getElem?] at value
  obtain ⟨l, stands, found⟩ := Option.bind_eq_some_iff.mp value
  have bound := (List.getElem?_eq_some_iff.mp stands).1
  refine ⟨_, _, h.blocks.isLatest_iff.mpr ⟨by omega, l, stands, rfl⟩, ?_⟩
  exact mem_own_iff.mpr ((h.blocks.traced stands).published found)

theorem Consistent.settled (h : Consistent corpus run notes) (latest : IsLatest notes i f)
    (ended : ∃ l, run.state.lookups[i]? = some l ∧ l.phase.isLive = false) :
    match Text.nonEmpty? f with
    | none => run.state.value = some corpus
    | some _ => (∃ r, .answered i r ∈ notes) ∧
      ∀ r, .answered i r ∈ notes → run.state.value = sizeIn r := by
  obtain ⟨l, stands, rfl, value, kept⟩ := h.exists_last latest
  obtain ⟨k, same, ended⟩ := ended
  cases stands.symm.trans same
  have found := (h.blocks.traced stands).found ended kept
  rw [value]
  cases filter : Text.nonEmpty? l.filter with
  | none =>
    rw [filter] at found
    exact found
  | some text =>
    rw [filter] at found
    obtain ⟨⟨r, answered⟩, all⟩ := found
    exact ⟨⟨r, mem_own_iff.mpr answered⟩, fun r member => all r (mem_own_iff.mp member)⟩

theorem Blocks.superseded {ls : List Lookup} (h : Blocks corpus ls notes)
    (superseded : Superseded notes i) : .resumed i ∉ notes := by
  obtain ⟨before, j, g, after, shape, later, early⟩ := superseded
  intro member
  rw [shape] at member
  rcases List.mem_append.mp member with old | new
  · exact early old
  · rcases List.mem_cons.mp new with same | new
    · cases same
    · have order : j ≤ i := h.le_lookup shape new
      omega

theorem Consistent.resumed (h : Consistent corpus run notes) (quiet : run.alarms = [])
    (updated : .updated i f ∈ notes) (first : ¬Superseded notes i) : .resumed i ∈ notes := by
  obtain ⟨l, stands, filter⟩ := h.blocks.updated_iff.mp updated
  have bound : i < run.state.lookups.length := (List.getElem?_eq_some_iff.mp stands).1
  by_cases last : i + 1 = run.state.lookups.length
  · have latest : IsLatest notes i f := h.blocks.isLatest_iff.mpr ⟨last, l, stands, filter⟩
    obtain ⟨k, same, -, -, kept⟩ := h.exists_last latest
    cases stands.symm.trans same
    have ended := h.ended quiet l (List.mem_of_getElem? stands)
    exact mem_own_iff.mpr ((h.blocks.traced stands).resumed ended kept)
  · -- another filter came, so the look-up must have gone on before that
    have next : run.state.lookups[i + 1]? = some run.state.lookups[i + 1] :=
      List.getElem?_eq_getElem (by omega)
    obtain ⟨before, after, shape⟩ :=
      List.append_of_mem (h.blocks.updated_iff.mpr ⟨_, next, rfl⟩)
    by_contra unresumed
    refine first ⟨before, i + 1, _, after, shape, Nat.lt_succ_self i, fun member => ?_⟩
    exact unresumed (shape ▸ List.mem_append_left _ member)

end Latest

/-! ### The log -/

section Log

theorem told_ofEffect (i : Nat) (e : Effect CounterEvent) :
    (e.event? CounterEvent.fetch).filter CounterEvent.isTold =
      (Note.ofEffect i e).bind Note.event? := by
  cases e with
  | record event => cases event <;> rfl
  | _ => rfl

theorem told_effects (i : Nat) (effects : Effects) :
    (effects.filterMap (·.event? CounterEvent.fetch)).filter CounterEvent.isTold =
      (effects.filterMap (Note.ofEffect i)).filterMap Note.event? := by
  rw [List.filter_filterMap, List.filterMap_filterMap]
  exact List.filterMap_congr fun e _ => told_ofEffect i e

theorem told_performAll (run : Rehearsal) (debounce i : Nat) (effects : Effects) :
    ((run.performAll (work debounce) effects).log.map (·.2)).filter CounterEvent.isTold =
      (run.log.map (·.2)).filter CounterEvent.isTold ++
        (effects.filterMap (Note.ofEffect i)).filterMap Note.event? := by
  rw [Run.log_performAll, List.map_append, List.filter_append, List.map_map, ← told_effects]
  simp [Function.comp_def, work]

variable {corpus : Corpus} {debounce : Nat} {run : Rehearsal} {notes : List Note}

theorem Runs.told (runs : Runs corpus debounce run notes) :
    (run.log.map (·.2)).filter CounterEvent.isTold = notes.filterMap Note.event? := by
  induction runs with
  | start script => rfl
  | wait _ _ _ ih => exact ih
  | @update run notes _ filter ih =>
    have acted := told_performAll { run with state := (run.state.update filter).1 } debounce
      run.state.lookups.length (run.state.update filter).2
    rw [Rehearsal.act, Run.record, List.map_append, List.filter_append, acted, ih,
      List.filterMap_append, notesOfUpdate]
    exact List.append_nil _
  | @fire run notes a _ _ ih =>
    have unheard : (Note.ofSignal a.task a.signal).toList.filterMap Note.event? = [] := by
      cases a.signal <;> rfl
    rw [Run.fire]
    refine (told_performAll _ debounce a.task _).trans ?_
    rw [notesOf, List.filterMap_append, List.filterMap_append, unheard, List.nil_append]
    exact congrArg (· ++ _) ih

end Log

/-! ### The end of a run -/

section Fuel

theorem weight_receive (c : Counter) (task : Nat) (r : Reply) :
    ((c.receive task r).2.map Effect.weight).sum = 0 := by
  obtain ⟨effects, received, -, told⟩ := receive_eq c task r
  rw [received]
  refine List.sum_eq_zero fun n member => ?_
  obtain ⟨e, inside, rfl⟩ := List.mem_map.mp member
  obtain ⟨event, rfl⟩ := told e inside
  rfl

theorem weight_resume (c : Counter) (task : Nat) (s : Signal) :
    ((c.resume task s).2.map Effect.weight).sum < s.weight := by
  have positive := s.weight_pos
  cases stands : c.lookups[task]? with
  | none => rwa [resume, stands]
  | some l =>
    obtain ⟨f, phase⟩ := l
    cases phase with
    | created =>
      cases s with
      | start =>
        rw [resume, stands]
        exact Nat.lt_succ_self 2
      | _ =>
        rw [resume, stands]
        exact positive
    | sleeping =>
      cases s with
      | wake =>
        rw [resume_wake stands]
        split
        · exact positive
        · exact Nat.lt_succ_self 1
      | _ =>
        rw [resume, stands]
        exact positive
    | fetching =>
      cases s with
      | reply r =>
        rw [show c.resume task (.reply r) = c.receive task r by rw [resume, stands],
          weight_receive]
        exact positive
      | _ =>
        rw [resume, stands]
        exact positive
    | ended _ =>
      rw [resume, stands]
      exact positive

theorem alarms_finish (run : Rehearsal) (debounce : Nat) :
    (run.finish (work debounce)).alarms = [] :=
  Run.alarms_finish (w := work debounce) weight_resume run

end Fuel

/-! ### Rehearsals -/

section Rehearsed

variable {corpus : Corpus} {debounce : Nat} {run : Rehearsal} {notes : List Note}

def Note.filter? : Note → Option (Option String)
  | updated _ f => some f
  | _ => none

theorem filter?_ofEffect (task : Nat) (e : Effect CounterEvent) :
    (Note.ofEffect task e).bind Note.filter? = none := by
  cases e with
  | record event => cases event <;> rfl
  | _ => rfl

theorem filters_effects (task : Nat) (effects : Effects) :
    (effects.filterMap (Note.ofEffect task)).filterMap Note.filter? = [] := by
  rw [List.filterMap_filterMap]
  exact List.filterMap_eq_nil_iff.mpr fun e _ => filter?_ofEffect task e

theorem filters_notesOf (c : Counter) (task : Nat) (s : Signal) :
    (c.notesOf task s).filterMap Note.filter? = [] := by
  rw [notesOf, List.filterMap_append, filters_effects, List.append_nil]
  cases s <;> rfl

theorem filters_notesOfUpdate (c : Counter) (filter : Option String) :
    (c.notesOfUpdate filter).filterMap Note.filter? = [filter] :=
  congrArg (filter :: ·) (filters_effects _ _)

def Follows (corpus : Corpus) (debounce : Nat) (filters : List (Option String)) (run : Rehearsal) :
    Prop :=
  ∃ notes, Runs corpus debounce run notes ∧ notes.filterMap Note.filter? = filters

variable {filters : List (Option String)}

theorem Follows.wait (h : Follows corpus debounce filters run) {now ticket : Nat}
    (later : run.now ≤ now) (ticketed : run.ticket ≤ ticket) :
    Follows corpus debounce filters { run with now, ticket } := by
  obtain ⟨notes, runs, same⟩ := h
  exact ⟨notes, runs.wait later ticketed, same⟩

theorem Follows.fire (h : Follows corpus debounce filters run) {a : Alarm} (set : a ∈ run.alarms) :
    Follows corpus debounce filters (run.fire (work debounce) a) := by
  obtain ⟨notes, runs, same⟩ := h
  refine ⟨_, runs.fire set, ?_⟩
  rw [List.filterMap_append, filters_notesOf, List.append_nil, same]

theorem Follows.act (h : Follows corpus debounce filters run) (filter : Option String) :
    Follows corpus debounce (filters ++ [filter]) (Rehearsal.act debounce run filter) := by
  obtain ⟨notes, runs, same⟩ := h
  refine ⟨_, runs.update filter, ?_⟩
  rw [List.filterMap_append, filters_notesOfUpdate, same]

theorem Follows.waitUntil (h : Follows corpus debounce filters run) (due : Nat) :
    Follows corpus debounce filters (run.waitUntil (work debounce) due) :=
  Run.waitUntil_induction (fun _ _ before set => before.fire set)
    (fun _ _ _ before later ticketed => before.wait later ticketed) due h

theorem Follows.actAll (h : Follows corpus debounce filters run)
    (actions : List (Nat × Option String)) :
    Follows corpus debounce (filters ++ actions.map (·.2))
      (Rehearsal.actAll debounce actions run) := by
  induction actions generalizing run filters with
  | nil => rwa [List.map_nil, List.append_nil]
  | cons action actions ih =>
    rw [List.map_cons, List.append_cons]
    refine ih (Follows.act ?_ action.2)
    split
    · exact h.waitUntil action.1
    · exact h

theorem exists_runs (corpus : Corpus) (debounce : Nat) (actions : List (Nat × Option String))
    (script : List Planned) : ∃ run notes, Runs corpus debounce run notes ∧
      notes.filterMap Note.filter? = actions.map (·.2) ∧ run.alarms = [] ∧
      rehearse corpus debounce actions script = run.record (.ended run.state.value) := by
  have begun : Follows corpus debounce [] (Run.start (ofCorpus corpus) script) :=
    ⟨[], .start script, rfl⟩
  have ended := Run.settle_induction (w := work debounce) (P := Follows corpus debounce _)
    (fun _ _ before set => before.fire set) (fun _ => false)
    (Run.fuel (Rehearsal.actAll debounce actions (Run.start (ofCorpus corpus) script)))
    (begun.actAll actions)
  obtain ⟨notes, runs, filters⟩ := ended
  exact ⟨_, notes, runs, filters, alarms_finish _ debounce, rfl⟩

end Rehearsed

/-! ### Only the latest size is shown -/

theorem Runs.showsLatest {corpus : Corpus} {debounce : Nat} {run : Rehearsal} {notes : List Note}
    (runs : Runs corpus debounce run notes) :
    ShowsLatest ⟨corpus.documents, corpus.tokens⟩ run notes := by
  have h := runs.consistent
  have own (i : Nat) (f : Option String) (updated : .updated i f ∈ notes) : ∃ l, l.filter = f ∧
      Traced ⟨corpus.documents, corpus.tokens⟩ i l (notes.filter (·.lookup = i)) := by
    obtain ⟨l, stands, filter⟩ := h.blocks.updated_iff.mp updated
    exact ⟨l, filter, h.blocks.traced stands⟩
  constructor
  case told => exact runs.told
  case cleared => exact fun before i f after shape => h.blocks.around_updated shape
  case latest => exact fun before i f after shape n member => h.blocks.le_lookup shape member
  case stored => exact fun size value => h.stored value
  case issued =>
    intro i f text updated filled resumed
    obtain ⟨l, rfl, traced⟩ := own i f updated
    rw [← requestsOf_own]
    exact traced.issued filled (mem_own_iff.mp resumed)
  case unissued =>
    intro i f updated unasked
    obtain ⟨l, rfl, traced⟩ := own i f updated
    rw [← requestsOf_own]
    exact traced.unissued (unasked.imp_right fun unresumed member =>
      unresumed (mem_own_iff.mpr member))
  case superseded => exact fun i superseded => h.blocks.superseded superseded
  case resumed => exact fun quiet i f updated first => h.resumed quiet updated first
  case ended => exact fun quiet => h.ended quiet
  case settled => exact fun i f latest ended => h.settled latest ended

/-- Only the size under the latest filter is shown, in every run: a new filter clears the size,
nothing of an earlier look-up is heard of after it, a request is made for a filter that is not empty
if the pause goes by without another filter, and the last look-up leaves what it has found. Each
rehearsal is such a run, and goes on until nothing is left to be done. -/
theorem latest_size_shown (corpus : Corpus) (debounce : Nat) :
    (∀ run notes, Runs corpus debounce run notes →
      ShowsLatest ⟨corpus.documents, corpus.tokens⟩ run notes) ∧
    ∀ actions script, ∃ run notes, Runs corpus debounce run notes ∧
      notes.filterMap Note.filter? = actions.map (·.2) ∧ run.alarms = [] ∧
      rehearse corpus debounce actions script = run.record (.ended run.state.value) :=
  ⟨fun _ _ runs => runs.showsLatest, exists_runs corpus debounce⟩

/-- Two filters within one pause. -/
theorem latest_size_shown_debounced : ∃ run notes,
    ShowsLatest ⟨0, 0⟩ run notes ∧
      notes.filterMap Note.filter? = [some "+genre:a", some "+genre:b"] ∧
      run.state.value = some ⟨1, 10⟩ := by
  obtain ⟨shown, rehearsed⟩ := latest_size_shown .empty 300
  obtain ⟨run, notes, runs, filters, -, ended⟩ :=
    rehearsed [(0, some "+genre:a"), (100, some "+genre:b")] [⟨50, .ok (.obj [("summary",
      .obj [("numberOfDocs", .int 1), ("tokensInMatchingDocuments", .int 10)])])⟩]
  refine ⟨run, notes, shown run notes runs, filters, ?_⟩
  rw [show run.state.value = (run.record (.ended run.state.value)).state.value from rfl, ← ended]
  decide +kernel

end Counter

end Concordance.Backend
