import Concordance.Proofs.Filter.Stable
import Concordance.Proofs.Link.Settings
import Concordance.Proofs.Link.Shown

/-! Reading an address and encoding it again: the address that is encoded stays the same from then
on, unless the tokens at the end of its pattern cannot be shown. -/

namespace Concordance

open Text (isName isNameChar)
open Site (Params)

/-! ### What is asked for a snapshot that was read -/

def Parameters.linked (P : Parameters) : Parameters :=
  { P with
    sample := P.sample.map Number.linked
    sampleCount := P.sampleCount.map Number.linked }

namespace Link

end Link

namespace Snapshot

variable {s : Settings} {x : Snapshot} {v : View}

theorem mode_linked (s : Settings) (x : Snapshot) (v : View) :
    ((x.reread s v).shown s v.mode).mode = v.mode := Query.mode_shown _ s _

theorem parameters_linked_of_valid (read : x.IsRead s v) (valid : x.globals.validate = .ok ()) :
    (x.linked s v).parameters s =
      .ok (some ((x.linked s v).request s ((x.reread s v).shown s v.mode))) :=
  parameters_of_valid read.isSome_viewed rfl (GlobalSettings.validate_linked valid)

theorem encode?_linked (view : x.view = some v) {text : Option String}
    (filters : x.filters = Filter.decode text s.corpus.fields) :
    Filter.encode? (x.linked s v).activeFilters.values = Filter.encode? x.activeFilters.values := by
  have again : (x.linked s v).filters =
      Filter.decode (Filter.encode? x.activeFilters.values) s.corpus.fields := rfl
  rw [activeFilters_of_view (x := x.linked s v) rfl, again, activeFilters_of_view view, mode_linked]
  split
  · rfl
  · rw [filters]
    exact Filter.encode?_decode text s.corpus.fields

theorem activeGap_linked (view : x.view = some v) (asked : (v.compile s).pattern.isSome) :
    (x.linked s v).activeGap = x.activeGap := by
  have again : (x.linked s v).gap = x.activeGap := if_pos asked
  rw [activeGap_of_view (x := x.linked s v) rfl, mode_linked, again, activeGap_of_view view]
  split
  · exact Text.nonEmpty?_of_ne (Text.nonEmpty?_ne x.gap)
  · rfl

theorem request_linked (read : x.IsRead s v) (noContextWord : "context" ∉ x.results.groupBy)
    {text : Option String} (filters : x.filters = Filter.decode text s.corpus.fields)
    (pattern : (((x.reread s v).shown s v.mode).compile s).pattern = (v.compile s).pattern) :
    (x.linked s v).request s ((x.reread s v).shown s v.mode) = (x.request s v).linked := by
  have results : (x.linked s v).results = { x.results with
      viewGroup := if x.results.isGrouped then x.results.viewGroup else none } :=
    read.results.linked_eq noContextWord
  have grouped : (x.linked s v).results.isGrouped = x.results.isGrouped := by
    rw [results]
    rfl
  have group : (x.linked s v).results.group = x.results.group := by
    rw [results]
    rfl
  have viewGroup : (if (x.linked s v).results.isGrouped then (x.linked s v).results.viewGroup
      else none) = if x.results.isGrouped then x.results.viewGroup else none := by
    rw [grouped, results]
    cases x.results.isGrouped <;> rfl
  have gap : (if (v.compile s).pattern.isSome then (x.linked s v).activeGap else none) =
      if (v.compile s).pattern.isSome then x.activeGap else none := by
    split
    · next asked => exact activeGap_linked read.view asked
    · rfl
  have seed : (if x.globals.linked.sampleSize.isSome then x.globals.linked.sampleSeed else none) =
      if x.globals.sampleSize.isSome then x.globals.sampleSeed else none := by
    rw [GlobalSettings.linked]
    cases x.globals.sampleSize <;> rfl
  have globals : (x.linked s v).globals = x.globals.linked := rfl
  rw [request, encode?_linked read.view filters, pattern, globals, GlobalSettings.sizeIn_linked,
    GlobalSettings.sizeIn_linked, group, viewGroup, gap, seed]
  rfl

end Snapshot

namespace Site

variable {site : Site} {s : Settings} {x y : Snapshot} {v : View} {e : Link}

end Site

/-- A snapshot of which nothing but tokens at the end of its pattern can be lost on the way. -/
structure Snapshot.IsStable (s : Settings) (x : Snapshot) : Prop where
  view : ∀ v ∈ x.view, v.IsStable s
  groupBy : "context" ∉ x.results.groupBy

def Snapshot.IsCarried (s : Settings) (x : Snapshot) : Prop :=
  x.viewed.isSome → ∀ v ∈ x.view, v.IsCarried s

namespace Site

variable {site : Site} {s : Settings} {viewed : Option String} {params : Params} {e : Link}

def viewOf (s : Settings) (viewed : Option String) (params : Params) : View :=
  (queryOf s viewed params).shown s (modeOf s viewed params)

end Site

end Concordance
