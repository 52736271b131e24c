import Concordance.Proofs.Navigation
import Concordance.Proofs.Snapshot.Json

/-! The entries of a record and a position among them are the entries that were passed, the current
one and the entries ahead. -/

namespace Concordance.Navigation

variable {n : Navigation}

/-! ### Trails -/

/-- The entries that were passed, the latest first, the current one, and the entries ahead. -/
inductive Trail
  | empty
  | on (past : List Entry) (here : Entry) (ahead : List Entry)

namespace Trail

def past : Trail → List Entry
  | empty => []
  | on past _ _ => past

def current : Trail → Option Entry
  | empty => none
  | on _ here _ => some here

def entries : Trail → List Entry
  | empty => []
  | on past here ahead => past.reverse ++ here :: ahead

def visit (entry : Entry) : Trail → Trail
  | empty => on [] entry []
  | on past here _ => on (here :: past) entry []

def back : Trail → Trail × Option Entry
  | on (before :: past) here ahead => (on past before (here :: ahead), some before)
  | t => (t, none)

def forward : Trail → Trail × Option Entry
  | on past here (next :: ahead) => (on (here :: past) next ahead, some next)
  | t => (t, none)

def opened (url : Option String) : Trail :=
  match Text.nonEmpty? url with
  | none => empty
  | some u => on [] ⟨u, none⟩ []

end Trail

/-! ### Steps -/

inductive Step
  | record (url : String) (truncated : Bool) (x : Snapshot)
  | back
  | forward

inductive Answer
  | added (new : Bool)
  | reached (entry : Option Entry)
  deriving DecidableEq, Repr

def step (n : Navigation) : Step → Navigation × Answer
  | .record url truncated x => (n.record url truncated x).map id .added
  | .back => n.back.map id .reached
  | .forward => n.forward.map id .reached

def run (n : Navigation) : List Step → Navigation × List Answer
  | [] => (n, [])
  | s :: steps => ((n.step s).1.run steps).map id ((n.step s).2 :: ·)

def alone : Option Entry → Navigation
  | none => empty
  | some entry => ⟨[entry], 0, .inl Nat.zero_lt_one⟩

theorem shouldPush_alone (n : Navigation) (url : String) (truncated : Bool) (x : Snapshot) :
    (alone n.current).shouldPush url truncated x = n.shouldPush url truncated x := by
  -- the other entries are never looked at
  have same : (alone n.current).current = n.current := by
    cases n.current <;> rfl
  rw [shouldPush, shouldPush, same]

namespace Trail

def record (t : Trail) (url : String) (truncated : Bool) (x : Snapshot) : Trail × Bool :=
  if (alone t.current).shouldPush url truncated x then (t.visit ⟨url, some x⟩, true) else (t, false)

def step (t : Trail) : Step → Trail × Answer
  | .record url truncated x => (t.record url truncated x).map id .added
  | .back => t.back.map id .reached
  | .forward => t.forward.map id .reached

def run (t : Trail) : List Step → Trail × List Answer
  | [] => (t, [])
  | s :: steps => ((t.step s).1.run steps).map id ((t.step s).2 :: ·)

end Trail

/-! ### The trail of a record -/

structure Shows (n : Navigation) (t : Trail) : Prop where
  entries : n.entries = t.entries
  position : n.position = t.past.length

theorem shows_opened (url : Option String) : Shows (opened url) (Trail.opened url) := by
  rw [opened, Trail.opened]
  cases Text.nonEmpty? url with
  | none => exact ⟨rfl, rfl⟩
  | some u => exact ⟨rfl, rfl⟩

namespace Shows

variable {t : Trail}

theorem current (shows : Shows n t) : n.current = t.current := by
  rw [Navigation.current, shows.entries, shows.position]
  cases t with
  | empty => rfl
  | on past here ahead => simp [Trail.entries, Trail.past, Trail.current]

theorem visit (shows : Shows n t) (entry : Entry) : Shows (n.push entry) (t.visit entry) := by
  have kept : n.entries.take (n.position + 1) = (t.visit entry).past.reverse := by
    rw [shows.entries, shows.position]
    cases t with
    | empty => rfl
    | on past here ahead => simp [Trail.entries, Trail.past, Trail.visit, List.take_append]
  constructor
  · change n.entries.take (n.position + 1) ++ [entry] = _
    rw [kept]
    cases t <;> simp [Trail.entries, Trail.past, Trail.visit]
  · change (n.entries.take (n.position + 1)).length = _
    rw [kept, List.length_reverse]

theorem record (shows : Shows n t) (url : String) (truncated : Bool) (x : Snapshot) :
    Shows (n.record url truncated x).1 (t.record url truncated x).1 ∧
      (n.record url truncated x).2 = (t.record url truncated x).2 := by
  rw [Navigation.record, Trail.record, ← shows.current, shouldPush_alone]
  cases n.shouldPush url truncated x with
  | true => exact ⟨shows.visit _, rfl⟩
  | false => exact ⟨shows, rfl⟩

theorem back (shows : Shows n t) : Shows n.back.1 t.back.1 ∧ n.back.2 = t.back.2 := by
  have start (first : n.position = 0) : n.back = (n, none) := by
    rw [Navigation.back, if_pos first]
  cases t with
  | empty =>
    rw [start shows.position]
    exact ⟨shows, rfl⟩
  | on past here ahead =>
    cases past with
    | nil =>
      rw [start shows.position]
      exact ⟨shows, rfl⟩
    | cons before past =>
      have later : n.position ≠ 0 := shows.position ▸ Nat.succ_ne_zero _
      have moved : Shows n.back.1 (.on past before (here :: ahead)) := by
        rw [Navigation.back, if_neg later]
        refine ⟨shows.entries.trans ?_, ?_⟩
        · simp [Trail.entries]
        · simp [shows.position, Trail.past]
      refine ⟨moved, ?_⟩
      have reached : n.back.2 = n.back.1.current := by
        rw [Navigation.back, if_neg later]
      rw [reached, moved.current]
      rfl

theorem forward (shows : Shows n t) :
    Shows n.forward.1 t.forward.1 ∧ n.forward.2 = t.forward.2 := by
  have stop (last : ¬n.position + 1 < n.entries.length) : n.forward = (n, none) := by
    rw [Navigation.forward, dif_neg last]
  cases t with
  | empty =>
    rw [stop (by simp [shows.entries, Trail.entries])]
    exact ⟨shows, rfl⟩
  | on past here ahead =>
    cases ahead with
    | nil =>
      rw [stop (by simp [shows.entries, shows.position, Trail.entries, Trail.past])]
      exact ⟨shows, rfl⟩
    | cons next ahead =>
      have further : n.position + 1 < n.entries.length := by
        simp [shows.entries, shows.position, Trail.entries, Trail.past]
      have moved : Shows n.forward.1 (.on (here :: past) next ahead) := by
        rw [Navigation.forward, dif_pos further]
        refine ⟨shows.entries.trans ?_, ?_⟩
        · simp [Trail.entries]
        · simp [shows.position, Trail.past]
      refine ⟨moved, ?_⟩
      have reached : n.forward.2 = n.forward.1.current := by
        rw [Navigation.forward, dif_pos further]
      rw [reached, moved.current]
      rfl

theorem step (shows : Shows n t) (s : Step) :
    Shows (n.step s).1 (t.step s).1 ∧ (n.step s).2 = (t.step s).2 := by
  cases s with
  | record url truncated x =>
    obtain ⟨after, answer⟩ := shows.record url truncated x
    exact ⟨after, congrArg Answer.added answer⟩
  | back =>
    obtain ⟨after, answer⟩ := shows.back
    exact ⟨after, congrArg Answer.reached answer⟩
  | forward =>
    obtain ⟨after, answer⟩ := shows.forward
    exact ⟨after, congrArg Answer.reached answer⟩

theorem run (shows : Shows n t) (steps : List Step) :
    Shows (n.run steps).1 (t.run steps).1 ∧ (n.run steps).2 = (t.run steps).2 := by
  induction steps generalizing n t with
  | nil => exact ⟨shows, rfl⟩
  | cons s steps ih =>
    -- the two are together after one step, and from there through the other ones
    obtain ⟨after, answer⟩ := shows.step s
    obtain ⟨atEnd, answers⟩ := ih after
    exact ⟨atEnd, congrArg₂ List.cons answer answers⟩

theorem inside (shows : Shows n t) : n.entries = [] ∧ n.current = none ∨
    ∃ inside : n.position < n.entries.length, n.current = some n.entries[n.position] := by
  cases t with
  | empty => exact .inl ⟨shows.entries, shows.current⟩
  | on past here ahead =>
    have inside : n.position < n.entries.length := by
      simp [shows.entries, shows.position, Trail.entries, Trail.past]
    exact .inr ⟨inside, List.getElem?_eq_getElem inside⟩

end Shows

/-! ### Entries of a run -/

theorem forward_back {entry : Entry} (moved : n.back.2 = some entry) :
    n.back.1.forward = (n, n.current) := by
  by_cases first : n.position = 0
  · rw [back, if_pos first] at moved
    cases moved
  · rw [back, if_neg first] at moved ⊢
    have before : n.position - 1 < n.entries.length := (List.getElem?_eq_some_iff.mp moved).1
    have inside : n.position < n.entries.length :=
      n.inside.resolve_right (List.ne_nil_of_length_pos (Nat.zero_lt_of_lt before))
    have again : n.position - 1 + 1 = n.position := Nat.succ_pred_eq_of_ne_zero first
    simp [forward, again, inside, current]

theorem mem_step {s : Step} {entry : Entry} (member : entry ∈ (n.step s).1.entries) :
    entry ∈ n.entries ∨ ∃ url truncated x, s = .record url truncated x ∧
      (n.step s).2 = .added true ∧ entry = ⟨url, some x⟩ := by
  cases s with
  | record url truncated x =>
    cases new : n.shouldPush url truncated x with
    | true =>
      have pushed : n.step (.record url truncated x) = (n.push ⟨url, some x⟩, .added true) := by
        rw [step, record, if_pos new]
        rfl
      rw [pushed] at member ⊢
      rcases List.mem_append.mp member with kept | last
      · exact .inl (List.mem_of_mem_take kept)
      · exact .inr ⟨url, truncated, x, rfl, rfl, List.mem_singleton.mp last⟩
    | false =>
      have quiet : n.step (.record url truncated x) = (n, .added false) := by
        rw [step, record, if_neg (Bool.eq_false_iff.mp new)]
        rfl
      rw [quiet] at member
      exact .inl member
  | back => exact .inl (n.entries_back ▸ member)
  | forward => exact .inl (n.entries_forward ▸ member)

theorem mem_run {steps : List Step} {entry : Entry} (member : entry ∈ (n.run steps).1.entries) :
    entry ∈ n.entries ∨ ∃ url truncated x,
      (.record url truncated x, .added true) ∈ steps.zip (n.run steps).2 ∧
        entry = ⟨url, some x⟩ := by
  induction steps generalizing n with
  | nil => exact .inl member
  | cons s steps ih =>
    -- an entry is added by a later step, by this one, or was there
    rcases ih member with before | ⟨url, truncated, x, added, shape⟩
    · rcases mem_step before with kept | ⟨url, truncated, x, rfl, answer, shape⟩
      · exact .inl kept
      · exact .inr ⟨url, truncated, x, answer ▸ List.mem_cons_self, shape⟩
    · exact .inr ⟨url, truncated, x, List.mem_cons_of_mem _ added, shape⟩

theorem of_mem_opened {url : Option String} {entry : Entry}
    (page : entry ∈ (opened url).entries) :
    entry.snapshot = none ∧ Text.nonEmpty? url = some entry.url := by
  rw [opened] at page
  cases given : Text.nonEmpty? url with
  | none =>
    rw [given] at page
    cases page
  | some u =>
    rw [given] at page
    rw [List.mem_singleton.mp page]
    exact ⟨rfl, rfl⟩

structure Follows (url : Option String) (steps : List Step) (n : Navigation)
    (answers : List Answer) (t : Trail) : Prop where
  entries : n.entries = t.entries
  current : n.current = t.current
  inside : n.entries = [] ∧ n.current = none ∨
    ∃ inside : n.position < n.entries.length, n.current = some n.entries[n.position]
  undone : ∀ entry, n.back.2 = some entry → n.back.1.forward = (n, n.current)
  /-- An entry is the page itself or has the snapshot that it was added for, as plain data too. -/
  restored : ∀ entry ∈ n.entries,
    entry.snapshot = none ∧ Text.nonEmpty? url = some entry.url ∨
      ∃ truncated x, (.record entry.url truncated x, .added true) ∈ steps.zip answers ∧
        (∀ site depth, restore site depth entry = .ok x) ∧
        entry.snapshot.map Snapshot.toJson = some x.toJson ∧
        Snapshot.ofJson x.toJson = .ok x

/-- From its first page on, a record answers like the trail of its entries and has the entries of
the trail, with the snapshots that they were added for. -/
theorem follows_trail (url : Option String) (steps : List Step) :
    ((opened url).run steps).2 = ((Trail.opened url).run steps).2 ∧
      Follows url steps ((opened url).run steps).1 ((opened url).run steps).2
        ((Trail.opened url).run steps).1 := by
  obtain ⟨shows, answers⟩ := (shows_opened url).run steps
  refine ⟨answers, shows.entries, shows.current, shows.inside, fun _ => forward_back, ?_⟩
  intro entry member
  rcases mem_run member with page | ⟨u, truncated, x, added, rfl⟩
  · exact .inl (of_mem_opened page)
  · exact .inr ⟨truncated, x, added, fun _ _ => rfl, rfl, x.ofJson_toJson⟩

/-- What is visited after going back takes the place of what was ahead. -/
example : ((opened (some "/search")).run [.record "/search/" false (documents none),
    .record "/a" false (documents none), .back, .record "/b" false (documents none),
    .forward]).2 =
    [.added false, .added true, .reached (some ⟨"/search", none⟩), .added true, .reached none] := by
  decide +kernel

end Concordance.Navigation
