import Concordance.Toml.Printer
import Concordance.Config.Basic

/-! Configurations as files. Of what is optional only what is set is written. -/

namespace Concordance.Config

def annotationEntry (a : Annotation) : String × Toml :=
  (a.id, .table [("display_name", .str a.displayName), ("kind", .str a.kind.name),
    ("internal", .bool a.internal), ("sensitivity", .str a.sensitivity)])

def fieldEntry (f : Field) : String × Toml :=
  (f.id, .table [("display_name", .str f.displayName), ("kind", .str f.kind.name)])

def tableUnlessEmpty (name : String) (entries : Toml.Entries) : Toml.Entries :=
  if entries.isEmpty then [] else [(name, .table entries)]

def optional (name : String) (s : Option String) : Toml.Entries :=
  s.toList.map fun s => (name, .str s)

def toEntries (c : Config) : Toml.Entries :=
  let s := c.settings
  let corpus := c.corpus
  [("backend", .table ([("url", .str c.backendUrl), ("timeout", .float c.timeout)] ++
      optional "corpus" c.corpusId)),
    ("interface", .table (
      [("base_path", .str c.site.basePath), ("advanced_enabled", .bool s.advancedEnabled),
        ("ngram_max_size", .int s.ngramMaxSize), ("max_url_length", .int c.site.maxLength)] ++
      optional "primary_annotation" s.primaryAnnotation ++
      if s.extendedAnnotations.isEmpty then []
      else [("extended_annotations", .arr (s.extendedAnnotations.map .str))])),
    ("polling", .table [("interval", .float c.pollInterval), ("debounce", .float c.debounce)]),
    ("history", .table [("database", .str c.historyPath.render),
      ("max_entries", .int c.historyEntries)]),
    ("display", .table [("colored_output", .bool c.colored)])] ++
  tableUnlessEmpty "annotations" (corpus.annotations.values.map annotationEntry) ++
  tableUnlessEmpty "fields" (corpus.fields.values.map fieldEntry) ++
  if corpus.documents = 0 ∧ corpus.tokens = 0 then []
  else [("corpus", .table [("documents", .int corpus.documents), ("tokens", .int corpus.tokens)])]

def save (c : Config) : String := Toml.write c.toEntries

end Concordance.Config
