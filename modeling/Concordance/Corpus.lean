import Concordance.Keyed

/-! What a corpus declares: the annotations of its words and the metadata of its documents. -/

namespace Concordance

inductive AnnotationKind
  | text
  | combobox
  | select
  | pos
  deriving DecidableEq, Repr, Inhabited

namespace AnnotationKind

def name : AnnotationKind → String
  | text => "text"
  | combobox => "combobox"
  | select => "select"
  | pos => "pos"

def all : List AnnotationKind := [text, combobox, select, pos]

def ofName? (s : String) : Option AnnotationKind := all.find? (·.name = s)

def splitsWords : AnnotationKind → Bool
  | text | combobox => true
  | select | pos => false

end AnnotationKind

structure Annotation where
  id : String
  displayName : String
  kind : AnnotationKind
  internal : Bool
  sensitivity : String
  deriving DecidableEq, Repr

namespace Annotation

def sensitive : String := "SENSITIVE_AND_INSENSITIVE"

def label (a : Annotation) : String := if a.displayName.isEmpty then a.id else a.displayName

def searchesCase (a : Annotation) : Bool := a.sensitivity == sensitive

end Annotation

/-- The widget in which a metadata field is filled in; it decides how filters are escaped. -/
inductive FieldKind
  | text
  | combobox
  | select
  | checkbox
  | radio
  | range
  deriving DecidableEq, Repr, Inhabited

namespace FieldKind

def name : FieldKind → String
  | text => "text"
  | combobox => "combobox"
  | select => "select"
  | checkbox => "checkbox"
  | radio => "radio"
  | range => "range"

def all : List FieldKind := [text, combobox, select, checkbox, radio, range]

def ofName? (s : String) : Option FieldKind := all.find? (·.name = s)

end FieldKind

structure Field where
  id : String
  displayName : String
  kind : FieldKind
  deriving DecidableEq, Repr

def Field.label (f : Field) : String := if f.displayName.isEmpty then f.id else f.displayName

structure Corpus where
  annotations : Keyed Annotation
  fields : Keyed Field
  documents : Int
  tokens : Int
  deriving DecidableEq, Repr

namespace Corpus

def empty : Corpus := ⟨∅, ∅, 0, 0⟩

def ofDeclarations (annotations : List Annotation) (fields : List Field)
    (documents tokens : Int) : Corpus :=
  ⟨.index Annotation.id annotations, .index Field.id fields, documents, tokens⟩

def visible (c : Corpus) : List Annotation := c.annotations.values.filter (!·.internal)

def primary (c : Corpus) : String := (c.visible.head?.map Annotation.id).getD "word"

def declares (c : Corpus) (name : String) : Bool := c.annotations.contains name

def kindOf (c : Corpus) (name : String) : AnnotationKind :=
  ((c.annotations.get? name).map Annotation.kind).getD .text

end Corpus

end Concordance
