import Concordance.Text.Blank
import Concordance.Corpus

/-! What shapes the views: the corpus and the options of the interface. -/

namespace Concordance

structure Settings where
  corpus : Corpus
  primaryAnnotation : Option String
  extendedAnnotations : List String
  advancedEnabled : Bool
  ngramMaxSize : Int
  deriving DecidableEq, Repr

namespace Settings

def primary (s : Settings) : String :=
  (Text.nonEmpty? s.primaryAnnotation).getD s.corpus.primary

/-- The annotations of the extended view; without a choice all that are visible. -/
def extendedIds (s : Settings) : List String :=
  if s.extendedAnnotations.isEmpty then s.corpus.visible.map Annotation.id
  else s.extendedAnnotations

end Settings

end Concordance
