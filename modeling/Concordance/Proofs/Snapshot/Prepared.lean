import Concordance.View.Compile
import Concordance.Proofs.Pattern.RoundTrip
import Concordance.Proofs.Text.NonEmpty

/-! Preparing a search settles which results are viewed, and how. A settled search stays as it is,
and all that is no result setting stays as it was. -/

namespace Concordance

namespace View

def displayMode? : View → Option String
  | corpora _ displayMode => displayMode
  | _ => none

def ownResults (s : Settings) (v : View) : ResultSettings :=
  { ResultSettings.initial with
    groupBy := (v.compile s).groupBy, displayMode := v.displayMode? }

def firstOpened (s : Settings) (v : View) : String :=
  if (v.compile s).pattern.isSome then hits else docs

def opened (s : Settings) (v : View) : Option String → String
  | none => v.firstOpened s
  | some viewed => if viewed = hits then v.firstOpened s else viewed

variable {s : Settings} {v : View} {open? : Option String}

theorem isSome_pattern_ngram (s : Settings) (group : String) {size : Int} (maxSize : Int)
    (slots : List Slot) (positive : 1 ≤ size) :
    ((ngram group size maxSize slots).compile s).pattern.isSome := by
  have filled : ngramTokens s.corpus size slots ≠ [] := by
    apply List.ne_nil_of_length_pos
    rw [ngramTokens, List.length_append, List.length_replicate]
    omega
  have written := Pattern.text_ne_empty (p := ⟨ngramTokens s.corpus size slots, none⟩) filled none
  rw [compile, Text.nonEmpty?_of_ne fun same => written (Option.some.inj same)]
  rfl

theorem viewed_compile (explore : v.form = .explore)
    (positive : ∀ group size maxSize slots, v = .ngram group size maxSize slots → 1 ≤ size) :
    (v.compile s).viewed = some hits ∧ (v.compile s).pattern.isSome ∨
      (v.compile s).viewed = some docs := by
  cases v with
  | simple | extended | advanced | expert => cases explore
  | frequency id => exact .inl ⟨rfl, rfl⟩
  | ngram group size maxSize slots =>
    have long := positive group size maxSize slots rfl
    exact .inl ⟨rfl, isSome_pattern_ngram s group maxSize slots long⟩
  | corpora groupBy displayMode => exact .inr rfl

theorem exists_viewed (s : Settings) (explore : v.form = .explore) :
    ∃ viewed, (v.compile s).viewed = some viewed := by
  cases v with
  | simple | extended | advanced | expert => cases explore
  | frequency | ngram | corpora => exact ⟨_, rfl⟩

theorem firstOpened_eq_hits (hit : v.firstOpened s = hits) : (v.compile s).pattern.isSome := by
  have differ : docs ≠ hits := by decide
  by_contra unfound
  rw [firstOpened, if_neg unfound] at hit
  exact differ hit

theorem opened_eq_hits (hit : v.opened s open? = hits) : (v.compile s).pattern.isSome := by
  cases open? with
  | none => exact firstOpened_eq_hits hit
  | some viewed =>
    rw [opened] at hit
    split at hit
    · exact firstOpened_eq_hits hit
    · next other => exact absurd hit other

theorem opened_cases (known : open? = none ∨ open? = some hits ∨ open? = some docs) :
    v.opened s open? = hits ∨ v.opened s open? = docs := by
  have first : v.firstOpened s = hits ∨ v.firstOpened s = docs := ite_eq_or_eq _ _ _
  rcases known with rfl | rfl | rfl
  · exact first
  · exact first
  · exact .inr rfl

theorem opened_of_open {viewed : String} (found : viewed = hits → (v.compile s).pattern.isSome) :
    v.opened s (some viewed) = viewed := by
  rw [opened]
  split
  · next hit => rw [firstOpened, if_pos (found hit), hit]
  · rfl

end View

def ResultSettings.restarted (r : ResultSettings) : ResultSettings :=
  { r with page := 0, viewGroup := none }

theorem ResultSettings.restarted_eq_self {r : ResultSettings} (page : r.page = 0)
    (viewGroup : r.viewGroup = none) : r.restarted = r := by
  rw [restarted, ← page, ← viewGroup]

namespace Snapshot

def reopened (x : Snapshot) (viewed : String) : Snapshot :=
  if x.viewed = some viewed then { x with results := x.results.restarted }
  else { x with viewed := some viewed, results := .initial }

variable {s : Settings} {x : Snapshot} {v : View}

theorem reopened_eq (x : Snapshot) (viewed : String) : x.reopened viewed =
    { x with
      viewed := some viewed
      results := if x.viewed = some viewed then x.results.restarted else .initial } := by
  rw [reopened]
  split
  · next same => rw [← same]
  · rfl

theorem prepare_of_view_none (none : x.view = none) (s : Settings) : x.prepare s = x := by
  rw [prepare, none]

theorem prepare_search (view : x.view = some v) (search : v.form = .search) :
    x.prepare s = x.reopened (v.opened s x.viewed) := by
  obtain ⟨given, filters, gap, globals, viewed, results⟩ := x
  subst view
  cases v with
  | simple | extended | advanced | expert => rfl
  | frequency | ngram | corpora => cases search

theorem prepare_explore (view : x.view = some v) (explore : v.form = .explore) :
    x.prepare s = { x with viewed := (v.compile s).viewed, results := v.ownResults s } := by
  obtain ⟨given, filters, gap, globals, viewed, results⟩ := x
  subst view
  cases v with
  | simple | extended | advanced | expert => cases explore
  | frequency | ngram | corpora => rfl

structure IsSettled (s : Settings) (v : View) (x : Snapshot) : Prop where
  page : x.results.page = 0
  viewGroup : x.results.viewGroup = none
  search : v.form = .search →
    ∃ viewed, x.viewed = some viewed ∧ (viewed = hits → (v.compile s).pattern.isSome)
  explore : v.form = .explore → x.viewed = (v.compile s).viewed ∧ x.results = v.ownResults s

theorem isSettled_reopened (search : v.form = .search) : IsSettled s v { x with
    viewed := some (v.opened s x.viewed)
    results :=
      if x.viewed = some (v.opened s x.viewed) then x.results.restarted else .initial } where
  page := by dsimp only; split <;> rfl
  viewGroup := by dsimp only; split <;> rfl
  search _ := ⟨v.opened s x.viewed, rfl, View.opened_eq_hits⟩
  explore explore := nomatch search.symm.trans explore

theorem isSettled_ownResults (explore : v.form = .explore) :
    IsSettled s v { x with viewed := (v.compile s).viewed, results := v.ownResults s } where
  page := rfl
  viewGroup := rfl
  search search := nomatch search.symm.trans explore
  explore _ := ⟨rfl, rfl⟩

theorem exists_settled (view : x.view = some v) (s : Settings) : ∃ viewed results,
    x.prepare s = { x with viewed := some viewed, results } ∧
      IsSettled s v { x with viewed := some viewed, results } := by
  cases form : v.form with
  | search =>
    exact ⟨_, _, (prepare_search view form).trans (reopened_eq x _), isSettled_reopened form⟩
  | explore =>
    obtain ⟨viewed, own⟩ := View.exists_viewed s form
    have settled := isSettled_ownResults (s := s) (x := x) form
    rw [own] at settled
    exact ⟨viewed, _, own ▸ prepare_explore view form, settled⟩

theorem IsSettled.prepare_eq_self (settled : x.IsSettled s v) (view : x.view = some v) :
    x.prepare s = x := by
  cases form : v.form with
  | search =>
    obtain ⟨viewed, same, found⟩ := settled.search form
    rw [prepare_search view form, same, View.opened_of_open found, reopened_eq, if_pos same,
      ResultSettings.restarted_eq_self settled.page settled.viewGroup, ← same]
  | explore =>
    obtain ⟨viewed, results⟩ := settled.explore form
    rw [prepare_explore view form, ← viewed, ← results]

/-- A prepared search is settled: preparing it again changes nothing. It views documents, or hits of
a pattern, from the first page on, and a result view that a search view leaves open is otherwise
shown as before. -/
theorem prepare_settles (view : x.view = some v)
    (positive : ∀ group size maxSize slots, v = .ngram group size maxSize slots → 1 ≤ size)
    (known : x.viewed = none ∨ x.viewed = some hits ∨ x.viewed = some docs) (s : Settings) :
    (x.prepare s).prepare s = x.prepare s ∧
      ((x.prepare s).view = x.view ∧ (x.prepare s).filters = x.filters ∧
        (x.prepare s).gap = x.gap ∧ (x.prepare s).globals = x.globals) ∧
      ((x.prepare s).viewed = some hits ∧ (v.compile s).pattern.isSome ∨
        (x.prepare s).viewed = some docs) ∧
      ((x.prepare s).results.page = 0 ∧ (x.prepare s).results.viewGroup = none) ∧
      (v.form = .search → x.viewed = (x.prepare s).viewed →
        (x.prepare s).results = { x.results with page := 0, viewGroup := none }) := by
  obtain ⟨viewed, results, prepared, settled⟩ := exists_settled view s
  refine ⟨?idempotent, ?frame, ?shown, ?start, ?kept⟩
  case idempotent => rw [prepared, settled.prepare_eq_self view]
  case frame => rw [prepared]; exact ⟨rfl, rfl, rfl, rfl⟩
  case shown =>
    cases form : v.form with
    | search =>
      rw [prepare_search view form, reopened_eq]
      rcases View.opened_cases (s := s) (v := v) known with hit | doc
      · exact .inl ⟨congrArg some hit, View.opened_eq_hits hit⟩
      · exact .inr (congrArg some doc)
    | explore =>
      rw [prepare_explore view form]
      exact View.viewed_compile form positive
  case start => rw [prepared]; exact ⟨settled.page, settled.viewGroup⟩
  case kept =>
    intro search same
    rw [prepare_search view search, reopened_eq] at same ⊢
    exact if_pos same

def plainSettings : Settings := ⟨.empty, none, [], true, 5⟩

def browsed : Snapshot :=
  { ofView (.expert (some "\"cat\"")) with
    viewed := some docs
    results := ⟨["genre"], ["context:word"], true, some "title", some "poetry", 3, some "table"⟩ }

def pairs : View := .ngram "lemma" 2 5 [⟨"word", "cat", false⟩]

/-- The groups of documents are kept, while pairs of words have groups of their own. -/
theorem prepare_settles_browsed :
    (browsed.viewed = some docs ∧
      (browsed.prepare plainSettings).prepare plainSettings = browsed.prepare plainSettings ∧
      (browsed.prepare plainSettings).results =
        ⟨["genre"], ["context:word"], true, some "title", none, 0, some "table"⟩) ∧
    (∀ group size maxSize slots, pairs = .ngram group size maxSize slots → 1 ≤ size) ∧
      ({ browsed with view := some pairs }.prepare plainSettings).viewed = some hits ∧
      (pairs.compile plainSettings).pattern.isSome := by
  have positive : ∀ group size maxSize slots,
      pairs = .ngram group size maxSize slots → 1 ≤ size := by
    rintro group size maxSize slots ⟨⟩
    decide
  have documents := prepare_settles (x := browsed) rfl nofun (.inr (.inr rfl)) plainSettings
  have words := prepare_settles (x := { browsed with view := some pairs }) rfl positive
    (.inr (.inr rfl)) plainSettings
  obtain ⟨again, -, -, -, kept⟩ := documents
  obtain ⟨-, -, shown, -, -⟩ := words
  refine ⟨⟨rfl, again, kept rfl (by decide +kernel)⟩, positive, shown.resolve_right ?_⟩
  decide +kernel

end Snapshot

end Concordance
