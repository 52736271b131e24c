import Concordance.Text.Literal
import Concordance.View.Compile

/-! The backend query of a snapshot. -/

namespace Concordance

inductive Parameter
  | text (s : String)
  | number (n : Number)
  deriving DecidableEq, Repr

namespace Parameter

def int (i : Int) : Parameter := number (.int i)

def render : Parameter → List Char
  | text s => s.toList
  | number n => n.render

end Parameter

structure Parameters where
  filter : Option String
  first : Int
  group : Option String
  number : Int
  pattern : Option String
  gap : Option String
  sample : Option Number
  sampleCount : Option Number
  sampleSeed : Option Int
  sort : Option String
  viewGroup : Option String
  wordsAroundHit : Option Int
  deriving DecidableEq, Repr

def Parameters.pairs (p : Parameters) : List (String × Option Parameter) :=
  [("filter", p.filter.map .text),
   ("first", some (.int p.first)),
   ("group", p.group.map .text),
   ("number", some (.int p.number)),
   ("patt", p.pattern.map .text),
   ("pattgapdata", p.gap.map .text),
   ("sample", p.sample.map .number),
   ("samplenum", p.sampleCount.map .number),
   ("sampleseed", p.sampleSeed.map .int),
   ("sort", p.sort.map .text),
   ("viewgroup", p.viewGroup.map .text),
   ("wordsaroundhit", p.wordsAroundHit.map .int)]

inductive Unusable
  | sampleWithoutSeed
  | unknownSampleMode (mode : String)
  | notSplittable
  | nothingToSplit
  deriving DecidableEq, Repr

namespace Unusable

def setting : Unusable → String
  | sampleWithoutSeed => "sampleseed"
  | unknownSampleMode _ => "sample_mode"
  | notSplittable | nothingToSplit => "split_batch"

def reason : Unusable → String
  | sampleWithoutSeed => "a sample size requires a sample seed"
  | unknownSampleMode mode => s!"unknown mode {String.ofList (Text.literal mode.toList)}"
  | notSplittable => "only an extended view with batch splitting can be split"
  | nothingToSplit => "no value to split"

def message (e : Unusable) : String := s!"Invalid search setting '{e.setting}': {e.reason}"

end Unusable

namespace GlobalSettings

def validate (g : GlobalSettings) : Except Unusable Unit :=
  if g.sampleSize.isSome && g.sampleSeed.isNone then .error .sampleWithoutSeed
  else if g.sampleMode = SampleMode.percentage ∨ g.sampleMode = SampleMode.count then .ok ()
  else .error (.unknownSampleMode g.sampleMode)

def sizeIn (g : GlobalSettings) (mode : String) : Option Number :=
  if g.sampleMode = mode then g.sampleSize else none

end GlobalSettings

namespace Snapshot

/-- Nothing is asked where no result view is open. -/
def parameters (s : Settings) (x : Snapshot) : Except Unusable (Option Parameters) :=
  match x.viewed, x.view with
  | some _, some view =>
    let g := x.globals
    let r := x.results
    let pattern := (view.compile s).pattern
    g.validate.map fun _ => some
      { filter := Filter.encode? x.activeFilters.values
        first := g.pageSize * r.page
        group := r.group.param
        number := g.pageSize
        pattern
        gap := if pattern.isSome then x.activeGap else none
        sample := g.sizeIn SampleMode.percentage
        sampleCount := g.sizeIn SampleMode.count
        sampleSeed := if g.sampleSize.isSome then g.sampleSeed else none
        sort := r.sort
        viewGroup := if r.isGrouped then r.viewGroup else none
        wordsAroundHit := g.wordsAroundHit }
  | _, _ => .ok none

end Snapshot

end Concordance
