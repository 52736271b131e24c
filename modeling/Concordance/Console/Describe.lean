import Concordance.Corpus
import Concordance.View.Compile
import Concordance.Console.Screen

/-! Views and patterns in words. -/

namespace Concordance.Console

abbrev Rows := List (String × Option String)

namespace Describe

def valueText (value : String) (caseSensitive : Bool) : String :=
  if caseSensitive then s!"{value} (case-sensitive)" else value

def annotationLabel (corpus : Corpus) (id : String) : String :=
  ((corpus.annotations.get? id).map Annotation.label).getD id

def fieldLabel (corpus : Corpus) (id : String) : String :=
  ((corpus.fields.get? id).map Field.label).getD id

def slotText (s : Slot) : String :=
  if s.value.isEmpty then "[]" else s!"{s.id}={valueText s.value s.caseSensitive}"

def valueRow (corpus : Corpus) (v : AnnotationValue) : String × Option String :=
  (annotationLabel corpus v.id, some (valueText v.value v.caseSensitive))

def content (corpus : Corpus) : View → Rows
  | .simple v => [valueRow corpus v]
  | .extended values within splitBatch =>
    (values.values.filter (·.isActive)).map (valueRow corpus) ++
      [("within", within), ("split batch", if splitBatch then some "yes" else none)]
  | .advanced pattern | .expert pattern => [("pattern", pattern)]
  | .frequency id => [("annotation", some (annotationLabel corpus id))]
  | .ngram group size maxSize slots =>
    [("group by", some (annotationLabel corpus group)),
      ("size", some s!"{size} (max {maxSize})"),
      ("tokens", some (" ".intercalate ((View.chosen size slots).map slotText)))]
  | .corpora groupBy displayMode => [("group by", groupBy), ("display", displayMode)]

/-- One row for each name; the last of several values counts. -/
def rows (corpus : Corpus) (v : View) : Rows :=
  (Keyed.ofList ([("form", some v.form.name), ("view", some v.mode.name)] ++
    content corpus v)).entries

/-- Annotations whose case the view wants to tell apart although the corpus does not. -/
def caseless (corpus : Corpus) (v : View) : List String :=
  let values := match v with
    | .simple value => [value]
    | .extended values .. => values.values.filter (·.isActive)
    | _ => []
  (values.filter fun value =>
    value.caseSensitive && (corpus.annotations.get? value.id).any (!·.searchesCase)).map (·.id)

end Describe

end Concordance.Console
