import Concordance.Config.Load
import Concordance.Config.Save
import Concordance.Proofs.FilePath
import Concordance.Proofs.Snapshot.Json

/-! A configuration that was loaded and saved is loaded as it was. -/

namespace Concordance

theorem Toml.lookup?_append (key : String) (entries es : Entries) :
    lookup? key (entries ++ es) = (lookup? key entries).or (lookup? key es) := by
  rw [lookup?, List.find?_append, Option.map_or]
  rfl

theorem Toml.lookup?_cons (key : String) (e : String × Toml) (es : Entries) :
    lookup? key (e :: es) = if e.1 = key then some e.2 else lookup? key es := by
  rw [lookup?, List.find?_cons]
  by_cases here : e.1 = key
  · rw [if_pos here, decide_eq_true here]
    rfl
  · rw [if_neg here, decide_eq_false here]
    rfl

@[simp] theorem Toml.lookup?_nil (key : String) : lookup? key [] = none := rfl

theorem Toml.lookup?_unless (key : String) (entries : Entries) (p : Prop) [Decidable p] :
    lookup? key (if p then [] else entries) = if p then none else lookup? key entries := by
  split <;> rfl

namespace Config

variable {c d : Config} {limits : Limits} {levels : Nat} {homes : Homes} {home : FilePath}

/-! ### Values that were written -/

theorem lookup?_optional (name : String) (s : Option String) (key : String) :
    Toml.lookup? key (optional name s) = if name = key then s.map .str else none := by
  cases s with
  | none => exact (ite_self none).symm
  | some s => exact Toml.lookup?_cons key (name, .str s) []

theorem lookup?_tableUnlessEmpty (name : String) (entries : Toml.Entries) (key : String) :
    Toml.lookup? key (tableUnlessEmpty name entries) =
      if name = key ∧ entries ≠ [] then some (.table entries) else none := by
  cases entries with
  | nil => simp [tableUnlessEmpty, Toml.lookup?]
  | cons e es => simp [tableUnlessEmpty, Toml.lookup?]

theorem tableAt_written {name : String} {root entries : Toml.Entries}
    (written : Toml.lookup? name root = some (.table entries)) :
    tableAt root name = .ok entries := by
  rw [tableAt, written]
  rfl

theorem tableAt_unlessEmpty {name : String} {root entries : Toml.Entries}
    (written : Toml.lookup? name root = if entries ≠ [] then some (.table entries) else none) :
    tableAt root name = .ok entries := by
  rw [tableAt, written]
  cases entries <;> rfl

theorem valueAt_written {α : Type} (write : α → Toml) {read : Toml → Option α}
    (inverse : ∀ a, read (write a) = some a) {table key : String} {entries : Toml.Entries}
    {r : Requirement} {value : Option α}
    (written : Toml.lookup? key entries = value.map write) :
    valueAt table entries key r read = .ok value := by
  rw [valueAt, written]
  cases value with
  | none => rfl
  | some a =>
    rw [Option.map_some]
    dsimp only
    rw [inverse]
    rfl

theorem timeAt_written {table key : String} {entries : Toml.Entries} {x : Binary64}
    (written : Toml.lookup? key entries = some (.float x)) (default : Binary64) :
    timeAt table entries key default = .ok x := by
  rw [timeAt, valueAt, written]
  rfl

theorem strings?_written (xs : List String) : strings? (.arr (xs.map .str)) = some xs := by
  rw [strings?]
  induction xs with
  | nil => rfl
  | cons x xs ih =>
    rw [List.map_cons, List.mapM_cons, ih]
    rfl

theorem annotationOf_annotationEntry (levels : Nat) (a : Annotation) :
    annotationOf levels (annotationEntry a) = .ok a := by
  simp [annotationOf, annotationEntry, entries?, require, kindAt, textOr, Toml.lookup?_cons,
    string?, AnnotationKind.ofName?_name, ok_bind, Toml.obstacle?, Toml.shown, Toml.truthy]

theorem fieldOf_fieldEntry (levels : Nat) (f : Field) :
    fieldOf levels (fieldEntry f) = .ok f := by
  simp [fieldOf, fieldEntry, entries?, require, kindAt, textOr, Toml.lookup?_cons,
    string?, FieldKind.ofName?_name, ok_bind, Toml.obstacle?, Toml.shown]

/-! ### What was read -/

/-- What a file can say: declarations under their own names, and a name of a file in the form in
which names are read. -/
structure IsRead (c : Config) : Prop where
  annotations : c.corpus.annotations.NamedBy Annotation.id
  fields : c.corpus.fields.NamedBy Field.id
  historyPath : c.historyPath.IsNormal

theorem corpusOf_eq_ok {root : Toml.Entries} {corpus : Corpus}
    (found : corpusOf levels root = .ok corpus) :
    corpus.annotations.NamedBy Annotation.id ∧ corpus.fields.NamedBy Field.id := by
  simp only [corpusOf, bind_eq_ok] at found
  obtain ⟨_, -, annotations, -, _, -, fields, -, _, -, documents, -, tokens, -, found⟩ := found
  cases found
  exact ⟨Keyed.namedBy_index _ annotations, Keyed.namedBy_index _ fields⟩

theorem isNormal_historyPath (normal : home.IsNormal) : (initial home).historyPath.IsNormal := by
  apply normal.append
  intro part member
  simp only [historyParts, List.mem_cons, List.not_mem_nil, or_false] at member
  rcases member with rfl | rfl | rfl | rfl <;> exact ⟨by decide, by decide⟩

theorem isRead_initial (normal : home.IsNormal) : (initial home).IsRead where
  annotations := nofun
  fields := nofun
  historyPath := isNormal_historyPath normal

theorem isRead_ofEntries {root : Toml.Entries} (normal : home.IsNormal)
    (found : ofEntries levels home root = .ok c) : c.IsRead := by
  simp only [ofEntries, bind_eq_ok] at found
  -- the tables one after the other, each followed by what is read from it
  obtain ⟨_, -, url, -, corpusId, -, timeout, -, found⟩ := found
  obtain ⟨_, -, basePath, -, primary, -, extended, -, advanced, -, found⟩ := found
  obtain ⟨ngramMaxSize, -, maxLength, -, _, -, pollInterval, -, debounce, -, found⟩ := found
  obtain ⟨_, -, database, -, maxEntries, -, _, -, colored, -, corpus, declared, found⟩ := found
  cases found
  obtain ⟨annotations, fields⟩ := corpusOf_eq_ok declared
  refine ⟨annotations, fields, ?_⟩
  cases database with
  | none => exact isNormal_historyPath normal
  | some database => exact FilePath.isNormal_read database

theorem sizes_toEntries : ∃ sizes documents tokens,
    tableAt c.toEntries "corpus" = .ok sizes ∧
    valueAt "corpus" sizes "documents" .integer integer? = .ok documents ∧
    valueAt "corpus" sizes "tokens" .integer integer? = .ok tokens ∧
    documents.getD 0 = c.corpus.documents ∧ tokens.getD 0 = c.corpus.tokens := by
  have table : Toml.lookup? "corpus" c.toEntries =
      if c.corpus.documents = 0 ∧ c.corpus.tokens = 0 then none
      else some (.table [("documents", .int c.corpus.documents),
        ("tokens", .int c.corpus.tokens)]) := by
    simp [toEntries, Toml.lookup?_append, Toml.lookup?_cons, lookup?_tableUnlessEmpty,
      Toml.lookup?_unless]
  by_cases unsaid : c.corpus.documents = 0 ∧ c.corpus.tokens = 0
  · rw [if_pos unsaid] at table
    refine ⟨[], none, none, ?_, rfl, rfl, unsaid.1.symm, unsaid.2.symm⟩
    rw [tableAt, table]
  · rw [if_neg unsaid] at table
    refine ⟨_, some c.corpus.documents, some c.corpus.tokens, tableAt_written table, ?_, ?_,
      rfl, rfl⟩
    · exact valueAt_written .int (fun _ => rfl) (Toml.lookup?_cons _ _ _)
    · exact valueAt_written .int (fun _ => rfl) (by simp [Toml.lookup?_cons])

theorem corpusOf_toEntries (h : c.IsRead) : corpusOf levels c.toEntries = .ok c.corpus := by
  have annotations : tableAt c.toEntries "annotations" =
      .ok (c.corpus.annotations.values.map annotationEntry) := by
    apply tableAt_unlessEmpty
    simp [toEntries, Toml.lookup?_append, Toml.lookup?_cons, lookup?_tableUnlessEmpty,
      Toml.lookup?_unless]
  have fields : tableAt c.toEntries "fields" =
      .ok (c.corpus.fields.values.map fieldEntry) := by
    apply tableAt_unlessEmpty
    simp [toEntries, Toml.lookup?_append, Toml.lookup?_cons, lookup?_tableUnlessEmpty,
      Toml.lookup?_unless]
  obtain ⟨sizes, documents, tokens, table, saidDocuments, saidTokens, same, same'⟩ :=
    sizes_toEntries (c := c)
  rw [corpusOf, annotations, ok_bind, mapM_inverse _ (annotationOf_annotationEntry levels), ok_bind,
    fields, ok_bind, mapM_inverse _ (fieldOf_fieldEntry levels), ok_bind, table, ok_bind,
    saidDocuments, ok_bind, saidTokens, ok_bind, same, same', Corpus.ofDeclarations,
    Keyed.index_values h.annotations, Keyed.index_values h.fields]

theorem backend_toEntries : ∃ entries, tableAt c.toEntries "backend" = .ok entries ∧
    valueAt "backend" entries "url" .string string? = .ok (some c.backendUrl) ∧
    valueAt "backend" entries "corpus" .string string? = .ok c.corpusId ∧
    ∀ default, timeAt "backend" entries "timeout" default = .ok c.timeout := by
  refine ⟨_, tableAt_written rfl, ?url, ?corpus, ?timeout⟩
  case url => exact valueAt_written .str (fun _ => rfl) rfl
  case corpus =>
    apply valueAt_written .str fun _ => rfl
    simp [Toml.lookup?_cons, lookup?_optional]
  case timeout => exact timeAt_written rfl

theorem interface_toEntries : ∃ entries extended, tableAt c.toEntries "interface" = .ok entries ∧
    valueAt "interface" entries "base_path" .string string? = .ok (some c.site.basePath) ∧
    valueAt "interface" entries "primary_annotation" .string string? =
      .ok c.settings.primaryAnnotation ∧
    valueAt "interface" entries "extended_annotations" .strings strings? = .ok extended ∧
    valueAt "interface" entries "advanced_enabled" .boolean boolean? =
      .ok (some c.settings.advancedEnabled) ∧
    valueAt "interface" entries "ngram_max_size" .integer integer? =
      .ok (some c.settings.ngramMaxSize) ∧
    valueAt "interface" entries "max_url_length" .integer integer? = .ok (some c.site.maxLength) ∧
    extended.getD [] = c.settings.extendedAnnotations := by
  refine ⟨_, if c.settings.extendedAnnotations = [] then none
    else some c.settings.extendedAnnotations, tableAt_written rfl, ?basePath, ?primary, ?extended,
    ?advanced, ?ngram, ?length, ?same⟩
  case basePath => exact valueAt_written .str (fun _ => rfl) rfl
  case primary =>
    apply valueAt_written .str fun _ => rfl
    simp [Toml.lookup?_append, Toml.lookup?_cons, Toml.lookup?_unless, lookup?_optional]
  case extended =>
    apply valueAt_written (fun xs => .arr (xs.map .str)) strings?_written
    simp [Toml.lookup?_append, Toml.lookup?_cons, Toml.lookup?_unless, lookup?_optional,
      apply_ite (Option.map _)]
  case advanced => exact valueAt_written .bool (fun _ => rfl) rfl
  case ngram => exact valueAt_written .int (fun _ => rfl) rfl
  case length => exact valueAt_written .int (fun _ => rfl) rfl
  case same => cases c.settings.extendedAnnotations <;> rfl

theorem polling_toEntries : ∃ entries, tableAt c.toEntries "polling" = .ok entries ∧
    (∀ default, timeAt "polling" entries "interval" default = .ok c.pollInterval) ∧
    ∀ default, timeAt "polling" entries "debounce" default = .ok c.debounce :=
  ⟨_, tableAt_written rfl, timeAt_written rfl, timeAt_written rfl⟩

theorem history_toEntries : ∃ entries, tableAt c.toEntries "history" = .ok entries ∧
    valueAt "history" entries "database" .pathText string? = .ok (some c.historyPath.render) ∧
    valueAt "history" entries "max_entries" .integer integer? = .ok (some c.historyEntries) :=
  ⟨_, tableAt_written rfl, valueAt_written .str (fun _ => rfl) rfl,
    valueAt_written .int (fun _ => rfl) rfl⟩

theorem display_toEntries : ∃ entries, tableAt c.toEntries "display" = .ok entries ∧
    valueAt "display" entries "colored_output" .boolean boolean? = .ok (some c.colored) :=
  ⟨_, tableAt_written rfl, valueAt_written .bool (fun _ => rfl) rfl⟩

theorem ofEntries_toEntries (h : c.IsRead) : ofEntries levels home c.toEntries = .ok c := by
  obtain ⟨_, backend, url, corpusId, timeout⟩ := backend_toEntries (c := c)
  obtain ⟨_, _, interface, basePath, primary, extended, advanced, ngram, length, same⟩ :=
    interface_toEntries (c := c)
  obtain ⟨_, polling, interval, debounce⟩ := polling_toEntries (c := c)
  obtain ⟨_, history, database, maxEntries⟩ := history_toEntries (c := c)
  obtain ⟨_, display, colored⟩ := display_toEntries (c := c)
  rw [ofEntries]
  simp only [backend, url, corpusId, timeout, interface, basePath, primary, extended, advanced,
    ngram, length, polling, interval, debounce, history, database, maxEntries, display, colored,
    corpusOf_toEntries h, ok_bind, Option.getD_some, Option.map_some, same,
    FilePath.read_render h.historyPath]
  rfl

/-! ### What was checked -/

theorem checked_eq_ok : c.checked homes = .ok d ↔
    ∃ path, c.historyPath.expand? homes = some path ∧ 1 ≤ c.settings.ngramMaxSize ∧
      1 ≤ c.site.maxLength ∧ c.pollInterval.le .zero = false ∧
      d = { c with historyPath := path } := by
  rw [checked, bind_eq_ok]
  cases c.historyPath.expand? homes with
  | none => simp
  | some path =>
    simp only [Option.elim_some, Except.ok.injEq, exists_eq_left', Option.some.injEq]
    split
    · next low => exact iff_of_false nofun fun sound => Int.not_le.mpr low sound.1
    split
    · next low => exact iff_of_false nofun fun sound => Int.not_le.mpr low sound.2.1
    split
    · next low => exact iff_of_false nofun fun sound => Bool.false_ne_true (sound.2.2.1 ▸ low)
    · next ngram length interval =>
      rw [Int.not_lt] at ngram length
      rw [Bool.not_eq_true] at interval
      constructor
      · rintro ⟨⟩
        exact ⟨ngram, length, interval, rfl⟩
      · rintro ⟨-, -, -, rfl⟩
        rfl

theorem checked_checked (absolute : homes.AreAbsolute) (sound : c.checked homes = .ok d) :
    d.checked homes = .ok d := by
  obtain ⟨path, found, ngram, length, interval, rfl⟩ := checked_eq_ok.mp sound
  exact checked_eq_ok.mpr
    ⟨path, FilePath.expand?_expand? absolute found, ngram, length, interval, rfl⟩

theorem IsRead.checked (h : c.IsRead) (sound : c.checked homes = .ok d) : d.IsRead := by
  obtain ⟨path, found, -, -, -, rfl⟩ := checked_eq_ok.mp sound
  exact ⟨h.annotations, h.fields, h.historyPath.expand? found⟩

theorem homeOf_eq_ok :
    homeOf homes = .ok home ↔ ∃ text, homes "" = some text ∧ home = .read text := by
  rw [homeOf]
  cases homes "" with
  | none => simp
  | some text => simp [eq_comm]

theorem load_eq_ok {path : String} {text : Option String} {ws : List Warning}
    (loaded : load limits homes path text = .ok (c, ws)) :
    ∃ home d, homeOf homes = .ok home ∧ d.IsRead ∧ checked homes d = .ok c := by
  cases text with
  | none =>
    simp only [load, bind_eq_ok] at loaded
    obtain ⟨home, known, _, sound, same⟩ := loaded
    obtain ⟨given, -, rfl⟩ := homeOf_eq_ok.mp known
    cases same
    exact ⟨_, _, known, isRead_initial (FilePath.isNormal_read given), sound⟩
  | some text =>
    simp only [load, bind_eq_ok] at loaded
    obtain ⟨root, -, home, known, d, found, _, sound, same⟩ := loaded
    obtain ⟨given, -, rfl⟩ := homeOf_eq_ok.mp known
    cases same
    exact ⟨_, d, known, isRead_ofEntries (FilePath.isNormal_read given) found, sound⟩

/-- A configuration that was loaded, from a file or as the initial one, is loaded unchanged from the
file it is saved in, wherever that is, if the text of the file is read as what was written. -/
theorem load_save (absolute : homes.AreAbsolute) {path : String} {text : Option String}
    {ws : List Warning} (loaded : load limits homes path text = .ok (c, ws))
    (written : Toml.read limits.calls c.save = .ok c.toEntries) (target : String) :
    load limits homes target (some c.save) = .ok (c, c.warnings) := by
  obtain ⟨home, d, known, read, sound⟩ := load_eq_ok loaded
  have again : c.checked homes = .ok c := checked_checked absolute sound
  rw [load]
  simp only [written, known, ok_bind, Except.mapError, ofEntries_toEntries (read.checked sound),
    again]

def libraryHomes : Homes := fun user => if user.isEmpty then some "/home/reader" else none

def libraryText : String :=
  "[history]\ndatabase = \"~/past.sqlite\"\n[annotations.word]\n[fields.genre]\nkind = \"select\"\n"

def library : Config := { initial (FilePath.read "/home/reader") with
  site := { defaultSite with
    settings.corpus := .ofDeclarations [⟨"word", "", .text, false, Annotation.sensitive⟩]
      [⟨"genre", "", .select⟩] 0 0 }
  historyPath := ⟨"/", ["home", "reader", "past.sqlite"]⟩ }

theorem load_save_library : libraryHomes.AreAbsolute ∧
    load ⟨980, 980⟩ libraryHomes "old.toml" (some libraryText) = .ok (library, []) ∧
    Toml.read 980 library.save = .ok library.toEntries ∧
    load ⟨980, 980⟩ libraryHomes "new.toml" (some library.save) = .ok (library, []) := by
  have absolute : libraryHomes.AreAbsolute := by
    intro user given known
    rw [libraryHomes] at known
    split at known <;> cases known
    decide
  have loaded : load ⟨980, 980⟩ libraryHomes "old.toml" (some libraryText) = .ok (library, []) := by
    decide +kernel
  -- the text is evaluated as a list of characters, which is quicker than as a string
  have written : Toml.read 980 library.save = .ok library.toEntries := by
    rw [save, Toml.write, Toml.read, String.toList_ofList]
    decide +kernel
  exact ⟨absolute, loaded, written, load_save absolute loaded written "new.toml"⟩

end Config

end Concordance
