import Concordance.Toml.Reader
import Concordance.Toml.Display
import Concordance.Config.Basic

/-! Configurations from files. Every value is checked for its type where it is read; the limits on
numbers are checked at the end, and what is merely suspicious is a warning. -/

namespace Concordance.Config

inductive Requirement
  | table
  | string
  | pathText
  | number
  | integer
  | boolean
  | strings
  | oneOf (names : List String)
  | atLeastOne
  | positive
  deriving DecidableEq, Repr

def Requirement.text : Requirement → String
  | table => "must be a table"
  | string => "must be a string"
  | pathText => "must be a string path"
  | number => "must be a number"
  | integer => "must be an integer"
  | boolean => "must be a boolean"
  | strings => "must be a list of strings"
  | oneOf names => "must be one of " ++ ", ".intercalate names
  | atLeastOne => "must be at least 1"
  | positive => "must be positive"

/-- How far nested values are followed: by how many calls when they are read, and by how many levels
when they are shown as running text. -/
structure Limits where
  calls : Nat
  levels : Nat

/-- Why a configuration cannot be used: the file cannot be read, or a value of it cannot be shown,
the value under a key is not what it must be, an integer is too large for a time, or a home
directory is not known. -/
inductive Failure
  | unreadable (f : Toml.Failure)
  | invalid (key : String) (requirement : Requirement)
  | timeTooLarge
  | unknownHome
  deriving DecidableEq, Repr

namespace Failure

def message : Failure → String
  | unreadable .malformed => "not a valid document"
  | unreadable .integerTooLong => "an integer is too long"
  | unreadable .tooDeep => "values are nested too deeply"
  | invalid key requirement => s!"Invalid config value for '{key}': {requirement.text}"
  | timeTooLarge => "a number is too large"
  | unknownHome => "Could not determine home directory."

end Failure

inductive Warning
  | noFile (path : String)
  | noAnnotations
  | undeclaredExtended (id : String)
  | undeclaredPrimary (id : String)
  deriving DecidableEq, Repr

def Warning.message : Warning → String
  | noFile path => s!"No config file found at {path}. Using defaults. " ++
      "Create config with: corpus-query init-config"
  | noAnnotations => "No annotations configured; patterns are matched against 'word'"
  | undeclaredExtended id => s!"Extended view annotation '{id}' is not declared"
  | undeclaredPrimary id => s!"Primary annotation '{id}' is not declared"

abbrev Check (α : Type) := Except Failure α

/-! ## Values -/

def string? : Toml → Option String
  | .str s => some s
  | _ => none

def integer? : Toml → Option Int
  | .int i => some i
  | _ => none

def boolean? : Toml → Option Bool
  | .bool b => some b
  | _ => none

def strings? : Toml → Option (List String)
  | .arr items => items.mapM string?
  | _ => none

def number? : Toml → Option Number
  | .int i => some (.int i)
  | .float x => some (.float x)
  | _ => none

def entries? : Toml → Option Toml.Entries
  | .table entries => some entries
  | _ => none

def require {α : Type} (key : String) (r : Requirement) (a : Option α) : Check α :=
  a.elim (.error (.invalid key r)) .ok

/-- The table of a name; one that is missing is empty. -/
def tableAt (root : Toml.Entries) (name : String) : Check Toml.Entries :=
  match Toml.lookup? name root with
  | none => .ok []
  | some v => require name .table (entries? v)

def valueAt {α : Type} (table : String) (entries : Toml.Entries) (key : String) (r : Requirement)
    (read : Toml → Option α) : Check (Option α) :=
  match Toml.lookup? key entries with
  | none => .ok none
  | some v => (require s!"{table}.{key}" r (read v)).map some

def toTime : Number → Check Binary64
  | .int i => (Binary64.ofInt? i).elim (.error .timeTooLarge) .ok
  | .float x => .ok x

def timeAt (table : String) (entries : Toml.Entries) (key : String) (default : Binary64) :
    Check Binary64 := do
  match ← valueAt table entries key .number number? with
  | none => .ok default
  | some n => toTime n

def textOr (levels : Nat) (default : String) (key : String) (entries : Toml.Entries) :
    Check String :=
  match Toml.lookup? key entries with
  | none => .ok default
  | some v => (v.obstacle? (levels + 1)).elim (.ok v.shown) fun f => .error (.unreadable f)

def kindAt {α : Type} (key : String) (entries : Toml.Entries) (default : α)
    (ofName? : String → Option α) (names : List String) : Check α :=
  match Toml.lookup? "kind" entries with
  | none => .ok default
  | some v => require s!"{key}.kind" (.oneOf names) ((string? v).bind ofName?)

def annotationOf (levels : Nat) (e : String × Toml) : Check Annotation := do
  let key := s!"annotations.{e.1}"
  let entries ← require key .table (entries? e.2)
  let kind ← kindAt key entries .text AnnotationKind.ofName? (AnnotationKind.all.map (·.name))
  let displayName ← textOr levels "" "display_name" entries
  let sensitivity ← textOr levels Annotation.sensitive "sensitivity" entries
  .ok ⟨e.1, displayName, kind,
    ((Toml.lookup? "internal" entries).map Toml.truthy).getD false, sensitivity⟩

def fieldOf (levels : Nat) (e : String × Toml) : Check Field := do
  let key := s!"fields.{e.1}"
  let entries ← require key .table (entries? e.2)
  let kind ← kindAt key entries .text FieldKind.ofName? (FieldKind.all.map (·.name))
  let displayName ← textOr levels "" "display_name" entries
  .ok ⟨e.1, displayName, kind⟩

def corpusOf (levels : Nat) (root : Toml.Entries) : Check Corpus := do
  let annotations ← (← tableAt root "annotations").mapM (annotationOf levels)
  let fields ← (← tableAt root "fields").mapM (fieldOf levels)
  let sizes ← tableAt root "corpus"
  let documents ← valueAt "corpus" sizes "documents" .integer integer?
  let tokens ← valueAt "corpus" sizes "tokens" .integer integer?
  .ok (.ofDeclarations annotations fields (documents.getD 0) (tokens.getD 0))

/-! ## Configurations -/

/-- The configuration that a file describes, with its numbers unchecked. -/
def ofEntries (levels : Nat) (home : FilePath) (root : Toml.Entries) : Check Config := do
  let c := initial home
  let backend ← tableAt root "backend"
  let url ← valueAt "backend" backend "url" .string string?
  let corpusId ← valueAt "backend" backend "corpus" .string string?
  let timeout ← timeAt "backend" backend "timeout" c.timeout
  let interface ← tableAt root "interface"
  let basePath ← valueAt "interface" interface "base_path" .string string?
  let primary ← valueAt "interface" interface "primary_annotation" .string string?
  let extended ← valueAt "interface" interface "extended_annotations" .strings strings?
  let advanced ← valueAt "interface" interface "advanced_enabled" .boolean boolean?
  let ngramMaxSize ← valueAt "interface" interface "ngram_max_size" .integer integer?
  let maxLength ← valueAt "interface" interface "max_url_length" .integer integer?
  let polling ← tableAt root "polling"
  let pollInterval ← timeAt "polling" polling "interval" c.pollInterval
  let debounce ← timeAt "polling" polling "debounce" c.debounce
  let history ← tableAt root "history"
  let database ← valueAt "history" history "database" .pathText string?
  let maxEntries ← valueAt "history" history "max_entries" .integer integer?
  let display ← tableAt root "display"
  let colored ← valueAt "display" display "colored_output" .boolean boolean?
  let corpus ← corpusOf levels root
  .ok
    { backendUrl := url.getD c.backendUrl
      corpusId
      timeout
      site :=
        { settings :=
            { corpus
              primaryAnnotation := primary
              extendedAnnotations := extended.getD []
              advancedEnabled := advanced.getD true
              ngramMaxSize := ngramMaxSize.getD c.settings.ngramMaxSize }
          basePath := basePath.getD c.site.basePath
          maxLength := maxLength.getD c.site.maxLength }
      pollInterval
      debounce
      historyPath := (database.map FilePath.read).getD c.historyPath
      historyEntries := maxEntries.getD c.historyEntries
      colored := colored.getD c.colored }

def checked (homes : Homes) (c : Config) : Check Config := do
  let historyPath ← (c.historyPath.expand? homes).elim (.error .unknownHome) .ok
  if c.settings.ngramMaxSize < 1 then .error (.invalid "interface.ngram_max_size" .atLeastOne)
  else if c.site.maxLength < 1 then .error (.invalid "interface.max_url_length" .positive)
  else if c.pollInterval.le .zero then .error (.invalid "polling.interval" .positive)
  else .ok { c with historyPath }

def warnings (c : Config) : List Warning :=
  let corpus := c.corpus
  let undeclared := c.settings.extendedAnnotations.filter (!corpus.declares ·)
  let primary := c.settings.primaryAnnotation.filter fun id => !id.isEmpty && !corpus.declares id
  (if corpus.annotations.isEmpty then [.noAnnotations] else []) ++
    undeclared.map .undeclaredExtended ++ primary.toList.map .undeclaredPrimary

def homeOf (homes : Homes) : Check FilePath :=
  (homes "").elim (.error .unknownHome) fun home => .ok (.read home)

/-- The configuration in a file with the given path and text, or the initial one if there is no
such file. -/
def load (limits : Limits) (homes : Homes) (path : String) (text : Option String) :
    Check (Config × List Warning) := do
  match text with
  | none =>
    let c ← (initial (← homeOf homes)).checked homes
    .ok (c, .noFile path :: c.warnings)
  | some text =>
    let root ← (Toml.read limits.calls text).mapError .unreadable
    let c ← (← ofEntries limits.levels (← homeOf homes) root).checked homes
    .ok (c, c.warnings)

end Concordance.Config
