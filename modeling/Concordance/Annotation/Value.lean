import Concordance.Text.Blank
import Concordance.Text.Pieces
import Concordance.Corpus
import Concordance.Annotation.Case
import Concordance.Annotation.Wildcard

/-! Values that users give for an annotation, and the regular expressions they become, one for
each token. `none` leaves a token unconstrained. -/

namespace Concordance

structure AnnotationValue where
  id : String
  value : String
  caseSensitive : Bool
  kind : AnnotationKind
  deriving DecidableEq, Repr

namespace AnnotationValue

def isActive (v : AnnotationValue) : Bool := !(Text.trim v.value.toList).isEmpty

def encodeWord (word : List Char) : Option (List Char) :=
  if Wildcard.isOpen word then none else some (Wildcard.toRegex word)

def encodeText (kind : AnnotationKind) (value : List Char) : List (Option (List Char)) :=
  match kind with
  | .text | .combobox => (Text.words value).map encodeWord
  | .select => [some (Regex.escape (Text.trim value))]
  | .pos => [some (Text.trim value)]

def encode (v : AnnotationValue) : List (Option String) :=
  (encodeText v.kind v.value.toList).map
    (Option.map fun regex => String.ofList (CaseMark.mark v.caseSensitive regex))

def encodeSlot (v : AnnotationValue) : Option String :=
  match Text.trim v.value.toList with
  | [] => none
  | word =>
    if Wildcard.isOpen word then none
    else
      let regex := match v.kind with
        | .text | .combobox => Wildcard.toRegex word
        | .select => Regex.escape word
        | .pos => word
      some (String.ofList (CaseMark.mark v.caseSensitive regex))

structure SkippedToken where
  kind : AnnotationKind
  deriving DecidableEq, Repr

def SkippedToken.message (e : SkippedToken) : String := s!"{e.kind.name} values cannot skip a token"

def decodeText (kind : AnnotationKind) (regexes : List (Option (List Char))) : List Char :=
  match kind with
  | .text | .combobox =>
    Text.spaced (regexes.map fun r => (r.map Wildcard.ofRegex).getD ['*'])
  | .select => Text.spaced (regexes.filterMap (·.map Regex.unescape))
  | .pos => Text.spaced (regexes.filterMap fun r => r)

/-- A value is case-sensitive if every regular expression is marked, and then loses the marks. -/
def decode (id : String) (regexes : List (Option String)) (kind : AnnotationKind) :
    Except SkippedToken AnnotationValue :=
  let regexes := regexes.map (Option.map String.toList)
  let given := regexes.filterMap fun r => r
  if !kind.splitsWords && regexes.contains none then .error ⟨kind⟩
  else
    let caseSensitive := !given.isEmpty && given.all CaseMark.isMarked
    let bare := if caseSensitive then regexes.map (Option.map CaseMark.strip) else regexes
    .ok ⟨id, String.ofList (decodeText kind bare), caseSensitive, kind⟩

end AnnotationValue

end Concordance
