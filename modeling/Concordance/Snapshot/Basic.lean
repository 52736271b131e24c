import Concordance.Number
import Concordance.Filter.Value
import Concordance.View.Basic
import Concordance.View.Group

/-! The complete configuration of one search. -/

namespace Concordance

def hits : String := "hits"

def docs : String := "docs"

structure ResultSettings where
  groupBy : List String
  contextKeys : List String
  caseSensitive : Bool
  sort : Option String
  viewGroup : Option String
  page : Int
  displayMode : Option String
  deriving DecidableEq, Repr

namespace ResultSettings

def initial : ResultSettings := ⟨[], [], false, none, none, 0, none⟩

def isGrouped (r : ResultSettings) : Bool := !r.groupBy.isEmpty || !r.contextKeys.isEmpty

def group (r : ResultSettings) : GroupSpec := .ofKeys r.groupBy r.contextKeys r.caseSensitive

end ResultSettings

namespace SampleMode

def percentage : String := "percentage"

def count : String := "count"

end SampleMode

structure GlobalSettings where
  pageSize : Int
  sampleMode : String
  sampleSize : Option Number
  sampleSeed : Option Int
  wordsAroundHit : Option Int
  deriving DecidableEq, Repr

namespace GlobalSettings

def pageSizes : List Int := [20, 50, 100, 200]

def defaultPageSize : Int := 50

def initial : GlobalSettings := ⟨defaultPageSize, SampleMode.percentage, none, none, none⟩

end GlobalSettings

structure Snapshot where
  view : Option View
  filters : Keyed FilterValue
  gap : Option String
  globals : GlobalSettings
  viewed : Option String
  results : ResultSettings
  deriving DecidableEq, Repr

namespace Snapshot

def ofView (v : View) : Snapshot := ⟨some v, ∅, none, .initial, none, .initial⟩

def form (s : Snapshot) : Form := (s.view.map View.form).getD .search

def mode (s : Snapshot) : Option Mode := s.view.map View.mode

/-- The filters that take part in the search; the simple view has none. -/
def activeFilters (s : Snapshot) : Keyed FilterValue :=
  match s.view with
  | some (.simple _) => ∅
  | _ => s.filters.filter (·.isActive)

/-- Only the expert view sends gap data. -/
def activeGap (s : Snapshot) : Option String :=
  match s.view with
  | some (.expert _) => Text.nonEmpty? s.gap
  | _ => none

/-- Equal in every part; a sample size that is no number equals nothing. -/
def same (a b : Snapshot) : Bool :=
  decide (a = b) && a.globals.sampleSize.all (·.isSelfEqual)

end Snapshot

end Concordance
