import Concordance.Annotation.Value

/-! The views in which a query is edited. A search view holds a pattern in more and more
expressive shapes; an explore view is a short way to a pattern with a grouping. -/

namespace Concordance

inductive Form
  | search
  | explore
  deriving DecidableEq, Repr

def Form.name : Form → String
  | .search => "search"
  | .explore => "explore"

inductive SearchMode
  | simple
  | extended
  | advanced
  | expert
  deriving DecidableEq, Repr

namespace SearchMode

def name : SearchMode → String
  | simple => "simple"
  | extended => "extended"
  | advanced => "advanced"
  | expert => "expert"

def all : List SearchMode := [simple, extended, advanced, expert]

def ofName? (s : String) : Option SearchMode := all.find? (·.name = s)

end SearchMode

inductive ExploreMode
  | frequency
  | ngram
  | corpora
  deriving DecidableEq, Repr

namespace ExploreMode

def name : ExploreMode → String
  | frequency => "frequency"
  | ngram => "ngram"
  | corpora => "corpora"

def all : List ExploreMode := [frequency, ngram, corpora]

def ofName? (s : String) : Option ExploreMode := all.find? (·.name = s)

end ExploreMode

inductive Mode
  | search (m : SearchMode)
  | explore (m : ExploreMode)
  deriving DecidableEq, Repr

namespace Mode

def name : Mode → String
  | search m => m.name
  | explore m => m.name

def form : Mode → Form
  | search _ => .search
  | explore _ => .explore

end Mode

/-- One word of an n-gram; an empty value fits any word. -/
structure Slot where
  id : String
  value : String
  caseSensitive : Bool
  deriving DecidableEq, Repr

inductive View
  | simple (value : AnnotationValue)
  | extended (values : Keyed AnnotationValue) (within : Option String) (splitBatch : Bool)
  | advanced (pattern : Option String)
  | expert (pattern : Option String)
  | frequency (id : String)
  | ngram (group : String) (size maxSize : Int) (slots : List Slot)
  | corpora (groupBy displayMode : Option String)
  deriving DecidableEq, Repr

namespace View

def mode : View → Mode
  | simple _ => .search .simple
  | extended .. => .search .extended
  | advanced _ => .search .advanced
  | expert _ => .search .expert
  | frequency _ => .explore .frequency
  | ngram .. => .explore .ngram
  | corpora .. => .explore .corpora

def form (v : View) : Form := v.mode.form

def blank (primary : String) : View := simple ⟨primary, "", false, .text⟩

end View

end Concordance
