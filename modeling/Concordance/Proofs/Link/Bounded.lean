import Concordance.Proofs.Filter.Stable
import Concordance.Proofs.Link.Settings
import Concordance.Proofs.Link.Shown

/-! Bounds that hold of all that is read from an address, whatever the address says. -/

namespace Concordance

open Site (Params)

/-! ### Percentages -/

namespace Binary64

theorem ratio_hundred : (ratio hundred).1 = 100 * (ratio hundred).2 := by decide +kernel

theorem ratio_zero : (ratio 0).1 = 0 := by decide +kernel

theorem ratio_le_hundred {place : Nat} (le : place ≤ hundred.val) :
    (ratio place).1 ≤ 100 * (ratio place).2 := by
  obtain ⟨-, same⟩ := ratio_eq place
  obtain ⟨positive, same'⟩ := ratio_eq hundred
  have most : multiple hundred = 100 * perOne := by
    rw [ratio_hundred, Nat.mul_right_comm] at same'
    exact (Nat.eq_of_mul_eq_mul_right positive same').symm
  apply Nat.le_of_mul_le_mul_right _ perOne_pos
  calc (ratio place).1 * perOne
    _ = multiple place * (ratio place).2 := same
    _ ≤ 100 * perOne * (ratio place).2 := Nat.mul_le_mul_right _ (most ▸ multiple_mono le)
    _ = 100 * (ratio place).2 * perOne := Nat.mul_right_comm _ _ _

end Binary64

/-- From zero to one hundred. Of the numbers below zero that is only the zero with a sign. -/
def Number.IsPercentage : Number → Prop
  | int i => 0 ≤ i ∧ i ≤ 100
  | float x => ∃ negative place, x = .finite negative place ∧
      (Binary64.ratio place).1 ≤ 100 * (Binary64.ratio place).2 ∧
      (negative = true → (Binary64.ratio place).1 = 0)

theorem Number.isPercentage_of_between {n : Number} (range : n.between 0 100) :
    n.IsPercentage := by
  cases n with
  | int i => simpa [between, IsPercentage] using range
  | float x =>
    obtain ⟨negative, place, rfl, le, zero⟩ := exists_place range
    refine ⟨negative, place, rfl, Binary64.ratio_le_hundred le, fun below => ?_⟩
    rw [zero below, Binary64.ratio_zero]

/-! ### What is read -/

structure GlobalSettings.IsBounded (g : GlobalSettings) : Prop where
  pageSize : g.pageSize ∈ pageSizes
  wordsAroundHit : ∀ n ∈ g.wordsAroundHit, 0 ≤ n ∧ n ≤ 10
  sampleSize : ∀ n ∈ g.sampleSize,
    g.sampleMode = SampleMode.count ∧ (∃ i, n = .int i ∧ 0 ≤ i) ∨
      g.sampleMode = SampleMode.percentage ∧ n.IsPercentage

theorem GlobalSettings.IsRead.isBounded {g : GlobalSettings} (read : g.IsRead) : g.IsBounded where
  pageSize := read.pageSize
  wordsAroundHit := read.wordsAroundHit
  sampleSize n given := by
    rcases read.sample with ⟨mode, range⟩ | ⟨mode, i, size, positive⟩
    · exact .inr ⟨mode, Number.isPercentage_of_between (range n given)⟩
    · rw [size, Option.mem_some_iff] at given
      exact .inl ⟨mode, i, given.symm, positive⟩

/-- A page that exists, the one with the first hit that is asked for, and one of its groups only
where there are groups. -/
structure ResultSettings.IsBounded (pageSize : Int) (first : Option Int) (r : ResultSettings) :
    Prop where
  page : 0 ≤ r.page
  first : ∀ n ∈ first, 0 < n → r.page * pageSize ≤ n ∧ n < (r.page + 1) * pageSize
  viewGroup : r.viewGroup.isSome → r.isGrouped

/-- Settings within their bounds, those of results that are not viewed untouched, filters on
declared fields, and the view that the form and the mode call for. -/
structure LinkState.IsBounded (s : Settings) (first : Option Int) (d : LinkState) : Prop where
  globals : d.globals.IsBounded
  openedHits : d.interface.viewed = some Concordance.hits →
    d.hits.IsBounded d.globals.pageSize first
  openedDocs : d.interface.viewed = some Concordance.docs →
    d.docs.IsBounded d.globals.pageSize first
  closedHits : d.interface.viewed ≠ some Concordance.hits → d.hits = .initial
  closedDocs : d.interface.viewed ≠ some Concordance.docs → d.docs = .initial
  filters : ∀ e ∈ d.filters.entries, e.2.id = e.1 ∧
    ∃ field, s.corpus.fields.get? e.1 = some field ∧ e.2.kind = field.kind
  form : d.view.form = d.interface.form
  mode : d.view.mode = d.interface.mode
  enabled : s.advancedEnabled = false → d.interface.searchMode ≠ .advanced

namespace Site

variable {params : Params}

theorem isGrouped_resultsOf (groups : GroupSpec) (displayMode : Option String) (pageSize : Int) :
    (resultsOf params groups displayMode pageSize).isGrouped = !groups.keys.isEmpty := by
  obtain ⟨keys⟩ := groups
  cases keys with
  | nil => rfl
  | cons key keys =>
    rw [resultsOf, ResultSettings.isGrouped, GroupSpec.groupBy, GroupSpec.plainKeys,
      GroupSpec.contextKeys]
    cases context : Group.isContext key <;> simp [context]

theorem isBounded_resultsOf (params : Params) (groups : GroupSpec) (displayMode : Option String)
    {pageSize : Int} (positive : 0 < pageSize) :
    (resultsOf params groups displayMode pageSize).IsBounded pageSize
      (integerOf? params "first") where
  page := page_resultsOf_nonneg params groups displayMode positive
  first n asked later := by
    have page : (resultsOf params groups displayMode pageSize).page = n / pageSize := by
      rw [resultsOf, Option.mem_def.mp asked]
      exact if_pos later
    rw [page]
    exact ⟨Int.ediv_mul_le n (Int.ne_of_gt positive), Int.lt_ediv_add_one_mul_self n positive⟩
  viewGroup given := by
    rw [isGrouped_resultsOf]
    cases ungrouped : groups.keys.isEmpty with
    | false => rfl
    | true =>
      rw [resultsOf, ungrouped] at given
      cases given

theorem mode_stateOf (s : Settings) (viewed : Option String) (params : Params) :
    (stateOf s viewed params).interface.mode = modeOf s viewed params := by
  rw [stateOf]
  dsimp only
  cases modeOf s viewed params <;> rfl

theorem isBounded_stateOf (s : Settings) (viewed : Option String) (params : Params) :
    (stateOf s viewed params).IsBounded s (integerOf? params "first") := by
  have read := GlobalSettings.isRead_globalsOf params
  have shown : (stateOf s viewed params).interface.viewed = viewed := Interface.viewed_ofMode _ _
  have results := isBounded_resultsOf params (queryOf s viewed params).groups
    (queryOf s viewed params).displayMode read.pageSize_pos
  constructor
  case globals => exact read.isBounded
  case openedHits =>
    intro opened
    rw [shown] at opened
    rw [stateOf]
    dsimp only
    rw [if_pos opened]
    exact results
  case openedDocs =>
    intro opened
    rw [shown] at opened
    rw [stateOf]
    dsimp only
    rw [if_pos opened]
    exact results
  case closedHits =>
    rw [shown]
    exact fun closed => if_neg closed
  case closedDocs =>
    rw [shown]
    exact fun closed => if_neg closed
  case filters =>
    intro e member
    obtain ⟨id, written⟩ := Filter.isRead_decode (Keyed.get?_eq_some_iff.mpr member)
    obtain ⟨field, declared, kind⟩ := written.declared
    exact ⟨id, field, id ▸ declared, kind.symm⟩
  case form =>
    rw [View.form, view_stateOf, Query.mode_shown, stateOf]
    dsimp only
    cases modeOf s viewed params <;> rfl
  case mode => rw [view_stateOf, Query.mode_shown, mode_stateOf]
  case enabled =>
    intro disabled advanced
    have mode : modeOf s viewed params = .search .advanced := by
      rw [stateOf] at advanced
      dsimp only at advanced
      cases asked : modeOf s viewed params with
      | search m =>
        rw [asked] at advanced
        exact congrArg Mode.search advanced
      | explore m =>
        rw [asked] at advanced
        cases advanced
    rw [enabled_of_modeOf mode] at disabled
    cases disabled

/-- Whatever is read from an address stays within its bounds. All is read but an interface that is
nested too deeply. -/
theorem decode_isBounded (site : Site) (depth : Nat) (url : String) :
    (∀ d, site.decode depth url = .ok d →
      d.IsBounded site.settings (integerOf? (paramsOf url) "first")) ∧
    ((∃ d, site.decode depth url = .ok d) ↔ ¬IsTooDeep depth (paramsOf url)) := by
  refine ⟨fun d read => ?_, fun ⟨d, read⟩ => (decode_eq_ok_iff.mp read).1, fun shallow => ?_⟩
  · rw [(decode_eq_ok_iff.mp read).2]
    exact isBounded_stateOf site.settings (viewedOf url) (paramsOf url)
  · exact ⟨_, decode_eq site shallow⟩

def openedUrl (count : Nat) : String :=
  String.ofList ("/search/hits".toList ++ '?' ::
    Url.queryText [("interface", String.ofList (Json.opened count))])

theorem paramsOf_path {path : List Char} (isPath : Url.IsPath path) (ps : Params) :
    paramsOf (String.ofList (path ++ '?' :: Url.queryText ps)) = ps := by
  rw [paramsOf, String.toList_ofList, Url.split_path isPath fun _ => Url.isQueryChar_of_mem _,
    Url.pairs_queryText]

theorem paramsOf_openedUrl (count : Nat) :
    paramsOf (openedUrl count) = [("interface", String.ofList (Json.opened count))] :=
  paramsOf_path ⟨List.all_eq_true.mp (by decide), by decide, by decide⟩ _

theorem isTooDeep_openedUrl (depth : Nat) : IsTooDeep depth (paramsOf (openedUrl (depth + 1))) := by
  refine ⟨String.ofList (Json.opened (depth + 1)), ?_, ?_, ?_⟩
  · rw [paramsOf_openedUrl]
    simp [Url.value?, Url.once]
  · rw [String.toList_ofList]
    rfl
  · rw [String.toList_ofList]
    exact Json.read_opened depth

/-- With room for a thousand lists one within another, the one after them is too much. -/
theorem decode_fails_opened : library.decode 1000 (openedUrl 1001) = .error .tooDeep :=
  decode_of_isTooDeep library (isTooDeep_openedUrl 1000)

end Site

end Concordance
