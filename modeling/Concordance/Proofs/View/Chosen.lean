import Concordance.Proofs.View.Faithful
import Concordance.Proofs.View.Group
import Concordance.Proofs.View.Ngram

/-! Which view is chosen for a query, and what of the query that view leaves out. No view leaves
out a filter. The explore views leave out gap data, and all group keys but the first one. -/

namespace Concordance

namespace Query

variable {q : Query} {s : Settings} {v : View}

/-! ### What each view shows -/

theorem exists_frequency? (shown : q.frequency? s = some v) : ∃ id, v = .frequency id ∧
    groupedId q s = some id ∧ q.groups.keys.length = 1 := by
  rw [frequency?] at shown
  split at shown
  · cases shown
  · next asked =>
    obtain ⟨id, found, rfl⟩ := Option.map_eq_some_iff.mp shown
    rw [not_or, not_not, not_not] at asked
    exact ⟨id, rfl, (Option.filter_eq_some_iff.mp found).1, asked.2⟩

theorem eq_of_corpora? (shown : q.corpora? = some v) :
    v = .corpora q.groups.groupBy.head? q.displayMode ∧ q.hasPattern = false := by
  rw [corpora?] at shown
  split at shown
  · cases shown
  · next asked =>
    cases shown
    rw [not_or, not_or, Bool.not_eq_true] at asked
    exact ⟨rfl, asked.2.1⟩

theorem eq_of_advanced? (shown : q.advanced? s = some v) :
    v = .advanced q.pattern ∧ s.advancedEnabled := by
  rw [advanced?] at shown
  split at shown
  · cases shown
  · next enabled =>
    cases shown
    rw [Bool.or_eq_true, not_or, Bool.not_eq_true, Bool.not_eq_true, Bool.not_eq_false'] at enabled
    exact ⟨rfl, enabled.2⟩

theorem eq_of_expert? (shown : q.expert? = some v) : v = .expert q.pattern := by
  rw [expert?] at shown
  split at shown
  · cases shown
    rfl
  · cases shown

theorem mode_frequency? (shown : q.frequency? s = some v) : v.mode = .explore .frequency := by
  obtain ⟨id, rfl, -⟩ := exists_frequency? shown
  rfl

theorem mode_ngram? (shown : q.ngram? s = some v) : v.mode = .explore .ngram := by
  obtain ⟨-, group, slots, -, -, rfl, -⟩ := exists_ngram? shown
  rfl

theorem mode_corpora? (shown : q.corpora? = some v) : v.mode = .explore .corpora := by
  rw [(eq_of_corpora? shown).1]
  rfl

theorem mode_simple? (shown : q.simple? s = some v) : v.mode = .search .simple := by
  rw [simple?] at shown
  split at shown
  · split at shown
    · cases shown
    · obtain ⟨w, -, rfl⟩ := Option.map_eq_some_iff.mp shown
      rfl
  · cases shown

theorem mode_extended? (shown : q.extended? s = some v) : v.mode = .search .extended := by
  rw [extended?] at shown
  split at shown
  · split at shown
    · cases shown
    · cases shown
      rfl
  · cases shown

theorem mode_advanced? (shown : q.advanced? s = some v) : v.mode = .search .advanced := by
  rw [(eq_of_advanced? shown).1]
  rfl

theorem mode_expert? (shown : q.expert? = some v) : v.mode = .search .expert := by
  rw [eq_of_expert? shown]
  rfl

/-! ### Which view is chosen -/

/-- The rule by which a view is chosen, and what it asks of the query. -/
inductive Chosen (q : Query) (s : Settings) : View → Prop
  | frequency {v : View} (shown : q.frequency? s = some v) : Chosen q s v
  | ngram {v : View} (shown : q.ngram? s = some v) : Chosen q s v
  | corpora {v : View} (shown : q.corpora? = some v) (grouped : q.groups.groupBy ≠ []) :
      Chosen q s v
  | simple {v : View} (shown : q.simple? s = some v) (fits : q.fitsSimple s) : Chosen q s v
  | extended {v : View} (shown : q.extended? s = some v) (ungapped : q.hasGap = false) :
      Chosen q s v
  | advanced {v : View} (shown : q.advanced? s = some v) (ungapped : q.hasGap = false) :
      Chosen q s v
  | expert {v : View} (shown : q.expert? = some v) : Chosen q s v
  | fallback (blank : q.hasPattern = false) : Chosen q s (q.fallback s)

theorem chosen_classify (q : Query) (s : Settings) : q.Chosen s (q.classify s) := by
  rw [classify]
  generalize choice : List.findSome? _ _ = found
  cases found with
  | none =>
    have expert : q.expert? = none := List.findSome?_eq_none_iff.mp choice _ (by simp)
    have blank : q.hasPattern = false := by simpa [expert?] using expert
    exact .fallback blank
  | some v =>
    rw [Option.getD_some]
    obtain ⟨shown, member, rfl⟩ := List.exists_of_findSome?_eq_some choice
    simp only [List.mem_cons, List.not_mem_nil, or_false] at member
    rcases member with shown | shown | shown | shown | shown | shown | shown
    · exact .frequency shown.symm
    · rw [eq_comm, Option.ite_none_left_eq_some] at shown
      exact .ngram shown.2
    · rw [eq_comm, Option.ite_none_left_eq_some, List.isEmpty_iff] at shown
      exact .corpora shown.2 shown.1
    · rw [eq_comm, Option.ite_none_right_eq_some] at shown
      exact .simple shown.2 shown.1
    · rw [eq_comm, Option.ite_none_left_eq_some, Bool.not_eq_true] at shown
      exact .extended shown.2 shown.1
    · rw [eq_comm, Option.ite_none_left_eq_some, Bool.not_eq_true] at shown
      exact .advanced shown.2 shown.1
    · exact .expert shown.symm

theorem classify_of_frequency? (shown : q.frequency? s = some v) : q.classify s = v := by
  rw [classify, shown]
  rfl

theorem classify_of_ngram? (other : q.frequency? s = none) (unfit : q.fitsSimple s = false)
    (shown : q.ngram? s = some v) : q.classify s = v := by
  rw [classify, other, unfit, shown]
  rfl

theorem bare_of_fitsSimple (fits : q.fitsSimple s) : q.hasFilters = false ∧ q.hasGap = false := by
  rw [fitsSimple] at fits
  split at fits
  · simp only [Bool.and_eq_true, Bool.not_eq_true'] at fits
    exact ⟨fits.1.2, fits.2⟩
  · cases fits

/-! ### Filters and gap data -/

theorem unfiltered_of_chosen (chosen : q.Chosen s v) (simple : v.mode = .search .simple) :
    q.hasFilters = false := by
  have other {m : Mode} (mode : v.mode = m) (apart : m ≠ .search .simple) :
      q.hasFilters = false := absurd (mode.symm.trans simple) apart
  cases chosen with
  | frequency shown => exact other (mode_frequency? shown) nofun
  | ngram shown => exact other (mode_ngram? shown) nofun
  | corpora shown => exact other (mode_corpora? shown) nofun
  | simple _ fits => exact (bare_of_fitsSimple fits).1
  | extended shown => exact other (mode_extended? shown) nofun
  | advanced shown => exact other (mode_advanced? shown) nofun
  | expert shown => exact other (mode_expert? shown) nofun
  | fallback =>
    rw [fallback] at simple
    split at simple
    · split at simple <;> cases simple
    · next unfiltered => exact Bool.eq_false_of_not_eq_true unfiltered

theorem expert_of_chosen (chosen : q.Chosen s v) (given : q.hasPattern) (gapped : q.hasGap)
    (frequency : q.frequency? s = none) (ngram : q.ngram? s = none) : v.mode = .search .expert := by
  have gapless (ungapped : q.hasGap = false) : v.mode = .search .expert := by
    rw [ungapped] at gapped
    cases gapped
  have patternless (blank : q.hasPattern = false) {w : View} : w.mode = .search .expert := by
    rw [blank] at given
    cases given
  cases chosen with
  | frequency shown =>
    rw [frequency] at shown
    cases shown
  | ngram shown =>
    rw [ngram] at shown
    cases shown
  | corpora shown => exact patternless (eq_of_corpora? shown).2
  | simple _ fits => exact gapless (bare_of_fitsSimple fits).2
  | extended _ ungapped => exact gapless ungapped
  | advanced _ ungapped => exact gapless ungapped
  | expert shown => exact mode_expert? shown
  | fallback blank => exact patternless blank

theorem classify_gapped_iff (given : q.hasPattern) (gapped : q.hasGap) :
    (q.classify s).mode = .search .expert ↔ q.frequency? s = none ∧ q.ngram? s = none := by
  have unfit : q.fitsSimple s = false := by
    refine Bool.eq_false_of_not_eq_true fun fits => ?_
    rw [(bare_of_fitsSimple fits).2] at gapped
    cases gapped
  constructor
  · intro expert
    cases frequency : q.frequency? s with
    | some v =>
      rw [classify_of_frequency? frequency, mode_frequency? frequency] at expert
      cases expert
    | none =>
      cases ngram : q.ngram? s with
      | some v =>
        rw [classify_of_ngram? frequency unfit ngram, mode_ngram? ngram] at expert
        cases expert
      | none => exact ⟨rfl, rfl⟩
  · intro ⟨frequency, ngram⟩
    exact expert_of_chosen (q.chosen_classify s) given gapped frequency ngram

end Query

namespace Snapshot

variable {x : Snapshot} {s : Settings} {v : View}

theorem activeFilters_of_view (view : x.view = some v) : x.activeFilters =
    if v.mode = .search .simple then ∅ else x.filters.filter (·.isActive) := by
  rw [activeFilters, view]
  cases v <;> rfl

theorem activeGap_of_view (view : x.view = some v) : x.activeGap =
    if v.mode = .search .expert then Text.nonEmpty? x.gap else none := by
  rw [activeGap, view]
  cases v <;> rfl

theorem groupBy_prepare (view : x.view = some v) (explore : v.form = .explore) :
    (x.prepare s).results.groupBy = (v.compile s).groupBy := by
  rw [prepare, view]
  cases v with
  | simple | extended | advanced | expert => cases explore
  | frequency | ngram | corpora => rfl

end Snapshot

namespace Query

variable {q : Query} {s : Settings} {v : View} {x : Snapshot}

/-- A query that is searched in the view it is classified as keeps all of its filters. It keeps its
gap data just if no explore view shows the pattern. -/
theorem classify_keepsGap_iff (view : x.view = some (q.classify s))
    (filters : x.filters = q.filters)
    (gap : x.gap = q.gap) (given : q.hasPattern) :
    x.activeFilters = q.filters.filter (·.isActive) ∧
      ((q.hasGap → x.activeGap = q.gap) ↔
        (q.hasGap → q.frequency? s = none ∧ q.ngram? s = none)) := by
  constructor
  · rw [Snapshot.activeFilters_of_view view, filters]
    split
    · next simple =>
      exact (Keyed.filter_eq_empty (unfiltered_of_chosen (q.chosen_classify s) simple)).symm
    · rfl
  · refine imp_congr_right fun gapped => ?_
    obtain ⟨text, told, asked⟩ : ∃ text, q.gap = some text ∧ Text.nonEmpty? q.gap = q.gap := by
      rw [hasGap] at gapped
      cases told : q.gap with
      | none =>
        rw [told] at gapped
        cases gapped
      | some text =>
        rw [told] at gapped
        exact ⟨text, rfl, Option.filter_some_pos gapped⟩
    rw [← classify_gapped_iff given gapped, Snapshot.activeGap_of_view view, gap, asked, told]
    simp

def gappedRun : Query where
  pattern := some "\"a\"+"
  filters := .index FilterValue.id [⟨"genre", .select, ["poetry"]⟩, ⟨"year", .range, ["", ""]⟩]
  groups := ⟨["hit:word:s", "context:word:s:H"]⟩
  gap := some "a\tb"
  viewed := some hits
  displayMode := none

theorem classify_keepsGap_gappedRun :
    let x : Snapshot := { Snapshot.ofView (gappedRun.classify plainSettings) with
      filters := gappedRun.filters, gap := gappedRun.gap }
    gappedRun.hasPattern ∧ gappedRun.hasGap ∧
      x.activeFilters = gappedRun.filters.filter (·.isActive) ∧ x.activeGap = some "a\tb" := by
  intro x
  obtain ⟨filters, gap⟩ := @classify_keepsGap_iff gappedRun plainSettings x rfl rfl rfl rfl
  refine ⟨rfl, rfl, filters, gap.mpr (fun _ => ⟨?_, ?_⟩) rfl⟩
  · decide +kernel
  · decide +kernel

def gappedWords : Query := { ofText "[]" with groups := ⟨["hit:word"]⟩, gap := some "a\tb" }

/-- Gap data is left out where the frequencies of an annotation are shown. -/
theorem classify_drops_gap : gappedWords.hasPattern ∧ gappedWords.hasGap ∧
    gappedWords.classify plainSettings = .frequency "word" ∧
    { Snapshot.ofView (gappedWords.classify plainSettings) with
      filters := gappedWords.filters, gap := gappedWords.gap }.activeGap = none ∧
    gappedWords.gap ≠ none := by
  have chosen : gappedWords.classify plainSettings = .frequency "word" := by decide +kernel
  refine ⟨rfl, rfl, chosen, ?_, nofun⟩
  rw [chosen]
  rfl

/-! ### Groups -/

theorem exists_groupBy {id : String} (found : groupedId q s = some id) :
    ∃ keys, q.groups.groupBy = Group.hitKey id :: keys := by
  rw [groupedId] at found
  split at found
  · cases found
  · next key keys grouped =>
    rw [Group.hitKey_of_hitName? (Option.filter_eq_some_iff.mp found).1]
    exact ⟨keys, grouped⟩

theorem groupBy_of_chosen (chosen : q.Chosen s v) (explore : v.form = .explore) :
    ∃ key keys, q.groups.groupBy = key :: keys ∧
      (v.compile s).groupBy = (Text.nonEmpty? (some key)).toList := by
  have other {m : Mode} (mode : v.mode = m) (search : m.form = .search) :
      ∃ key keys, q.groups.groupBy = key :: keys ∧
        (v.compile s).groupBy = (Text.nonEmpty? (some key)).toList := by
    rw [View.form, mode, search] at explore
    cases explore
  have annotation {id : String} (found : groupedId q s = some id) :
      ∃ key keys, q.groups.groupBy = key :: keys ∧
        [Group.hitKey id] = (Text.nonEmpty? (some key)).toList := by
    obtain ⟨keys, grouped⟩ := exists_groupBy found
    refine ⟨Group.hitKey id, keys, grouped, ?_⟩
    rw [Text.nonEmpty?_of_ne fun empty => Group.hitKey_ne_empty id (Option.some.inj empty)]
    rfl
  cases chosen with
  | frequency shown =>
    obtain ⟨id, rfl, found, -⟩ := exists_frequency? shown
    exact annotation found
  | ngram shown =>
    obtain ⟨-, group, slots, -, -, rfl, h⟩ := exists_ngram? shown
    exact annotation h.grouped
  | corpora shown grouped =>
    obtain ⟨key, keys, split⟩ := List.exists_cons_of_ne_nil grouped
    rw [(eq_of_corpora? shown).1, split]
    exact ⟨key, keys, rfl, rfl⟩
  | simple shown => exact other (mode_simple? shown) rfl
  | extended shown => exact other (mode_extended? shown) rfl
  | advanced shown => exact other (mode_advanced? shown) rfl
  | expert shown => exact other (mode_expert? shown) rfl
  | fallback =>
    rw [Query.fallback] at explore
    split at explore
    · split at explore <;> cases explore
    · cases explore

/-- A query that is classified as an explore view, and then searched in it, keeps its groups just if
there is a single one, which is more than a case mark. -/
theorem classify_keepsGroups_iff (explore : (q.classify s).form = .explore)
    (view : x.view = some (q.classify s)) :
    ((q.classify s).compile s).groupBy = q.groups.groupBy ∧
        (x.prepare s).results.groupBy = q.groups.groupBy ↔
      ∃ key, q.groups.groupBy = [key] ∧ key ≠ "" := by
  obtain ⟨key, keys, grouped, compiled⟩ := groupBy_of_chosen (q.chosen_classify s) explore
  rw [Snapshot.groupBy_prepare view explore, and_self, compiled, grouped, Text.nonEmpty?_some]
  constructor
  · intro same
    split at same
    · cases same
    · next filled =>
      rw [Option.toList_some, List.cons.injEq] at same
      exact ⟨key, by rw [← same.2], fun empty => filled (String.isEmpty_iff.mpr empty)⟩
  · intro ⟨other, single, filled⟩
    rw [List.cons.injEq] at single
    rw [single.1, single.2, Text.isEmpty_eq_false filled]
    rfl

def groupedNoun : Query := { ofText "[pos=\"N\"][]" with groups := ⟨["hit:word:s"]⟩ }

theorem classify_keepsGroups_groupedNoun :
    let x : Snapshot := { Snapshot.ofView (groupedNoun.classify taggedSettings) with
      viewed := some docs, results := { ResultSettings.initial with groupBy := ["genre"] } }
    (groupedNoun.classify taggedSettings).form = .explore ∧
      ((groupedNoun.classify taggedSettings).compile taggedSettings).groupBy = ["hit:word"] ∧
      (x.prepare taggedSettings).results.groupBy = ["hit:word"] := by
  intro x
  have explore : (groupedNoun.classify taggedSettings).form = .explore := by decide +kernel
  have grouped : groupedNoun.groups.groupBy = ["hit:word"] := by decide +kernel
  have kept := (@classify_keepsGroups_iff groupedNoun taggedSettings x explore rfl).mpr
    ⟨"hit:word", grouped, by decide⟩
  rw [grouped] at kept
  exact ⟨explore, kept⟩

def groupedTwice : Query := { groupedNoun with groups := ⟨["hit:word", "hit:pos"]⟩ }

/-- The second group is left out where n-grams are shown. -/
theorem classify_drops_group :
    groupedTwice.classify taggedSettings =
        .ngram "word" 2 5 [⟨"pos", "N", false⟩, ⟨"word", "", false⟩] ∧
      ((groupedTwice.classify taggedSettings).compile taggedSettings).groupBy = ["hit:word"] ∧
      groupedTwice.groups.groupBy = ["hit:word", "hit:pos"] := by
  have chosen : groupedTwice.classify taggedSettings =
      .ngram "word" 2 5 [⟨"pos", "N", false⟩, ⟨"word", "", false⟩] := by
    decide +kernel
  refine ⟨chosen, ?_, by decide +kernel⟩
  rw [chosen]
  decide

end Query

end Concordance
