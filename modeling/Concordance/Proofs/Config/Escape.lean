import Concordance.Proofs.Config.Saved
import Concordance.Proofs.Toml.Depth

/-! Which failures of loading are reported as faults of the configuration. The others escape: a
value that has the right type is then converted, and the conversion may still fail. -/

namespace Concordance

namespace Config

/-- Failures told to the user as faults of the configuration; the others end the program. -/
def Failure.isReported : Failure → Bool
  | .unreadable .malformed => true
  | .invalid .. => true
  | _ => false

def timeKeys : List (String × String) :=
  [("backend", "timeout"), ("polling", "interval"), ("polling", "debounce")]

def textKeys : List (String × String) :=
  [("annotations", "display_name"), ("annotations", "sensitivity"), ("fields", "display_name")]

def entryOf? (root : Toml.Entries) (table key : String) : Option Toml :=
  ((Toml.lookup? table root).bind entries?).bind (Toml.lookup? key)

/-- Where past searches are kept, before the home directory is filled in. -/
def historyPathOf (home : FilePath) (root : Toml.Entries) : FilePath :=
  (((entryOf? root "history" "database").bind string?).map FilePath.read).getD
    (initial home).historyPath

/-- The file holds a value that can be read and has the right type, but cannot be converted: an
integer that is too large for a time, or a value of which not all can be shown; or a home directory
is missing. -/
inductive Overruns (levels : Nat) (homes : Homes) (root : Toml.Entries) : Prop
  | time {table key : String} (listed : (table, key) ∈ timeKeys) {i : Int}
    (number : entryOf? root table key = some (.int i)) (large : Binary64.ofInt? i = none)
  | text {table key : String} (listed : (table, key) ∈ textKeys) {entries : Toml.Entries}
    (given : Toml.lookup? table root = some (.table entries)) {id : String}
    {declaration : Toml.Entries} (declared : (id, .table declaration) ∈ entries) {v : Toml}
    (value : Toml.lookup? key declaration = some v) (hidden : ¬v.IsShowable levels)
  | home (unknown : homes "" = none)
  | historyPath {home : FilePath} (known : homeOf homes = .ok home)
    (unknown : (historyPathOf home root).expand? homes = none)

/-- The file holds an integer that is too long to be read, or values that are nested too deeply to
be read, or it is read and `Overruns`. -/
def Unloadable (limits : Limits) (homes : Homes) (text : String) : Prop :=
  Toml.read limits.calls text = .error .integerTooLong ∨
    Toml.read limits.calls text = .error .tooDeep ∨
    ∃ root, Toml.read limits.calls text = .ok root ∧ Overruns limits.levels homes root

/-- The check fails with a failure that is not reported only if `p` holds. -/
def EscapesOnlyIf {α : Type} (p : Prop) (x : Check α) : Prop :=
  ∀ f, x = .error f → f.isReported = false → p

section

variable {α β : Type} {p : Prop} {limits : Limits} {levels : Nat} {homes : Homes}
  {root entries : Toml.Entries} {table key : String}

namespace EscapesOnlyIf

theorem of_ok (a : α) : EscapesOnlyIf p (.ok a : Check α) := nofun

theorem of_invalid (key : String) (r : Requirement) :
    EscapesOnlyIf p (.error (.invalid key r) : Check α) := by
  rintro _ ⟨⟩ ⟨⟩

theorem mono {q : Prop} (implies : p → q) {x : Check α} (only : EscapesOnlyIf p x) :
    EscapesOnlyIf q x := fun f failed escapes => implies (only f failed escapes)

theorem bind {x : Check α} {g : α → Check β} (first : EscapesOnlyIf p x)
    (later : ∀ a, x = .ok a → EscapesOnlyIf p (g a)) : EscapesOnlyIf p (x >>= g) := by
  cases x with
  | ok a => exact later a rfl
  | error f =>
    intro _ same
    cases same
    exact first f rfl

theorem mapM {g : α → Check β} {xs : List α} (each : ∀ x ∈ xs, EscapesOnlyIf p (g x)) :
    EscapesOnlyIf p (xs.mapM g) := by
  induction xs with
  | nil => exact of_ok []
  | cons x xs ih =>
    rw [List.mapM_cons]
    refine (each x List.mem_cons_self).bind fun b _ => ?_
    refine (ih fun y member => each y (List.mem_cons_of_mem x member)).bind fun bs _ => ?_
    exact of_ok (b :: bs)

theorem require (key : String) (r : Requirement) (a : Option α) :
    EscapesOnlyIf p (Config.require key r a) := by
  cases a with
  | none => exact of_invalid key r
  | some a => exact of_ok a

theorem tableAt (root : Toml.Entries) (name : String) : EscapesOnlyIf p (tableAt root name) := by
  rw [Config.tableAt]
  cases Toml.lookup? name root with
  | none => exact of_ok []
  | some v => exact require name .table (entries? v)

theorem valueAt (table : String) (entries : Toml.Entries) (key : String) (r : Requirement)
    (read : Toml → Option α) : EscapesOnlyIf p (valueAt table entries key r read) := by
  rw [Config.valueAt]
  cases Toml.lookup? key entries with
  | none => exact of_ok none
  | some v =>
    dsimp only
    cases read v with
    | none => exact of_invalid _ r
    | some a => exact of_ok (some a)

theorem kindAt (key : String) (entries : Toml.Entries) (default : α) (ofName? : String → Option α)
    (names : List String) : EscapesOnlyIf p (kindAt key entries default ofName? names) := by
  rw [Config.kindAt]
  cases Toml.lookup? "kind" entries with
  | none => exact of_ok default
  | some v => exact require _ _ _

theorem textOr (default : String)
    (hidden : ∀ v, Toml.lookup? key entries = some v → ¬v.IsShowable levels → p) :
    EscapesOnlyIf p (textOr levels default key entries) := by
  rw [Config.textOr]
  cases found : Toml.lookup? key entries with
  | none => exact of_ok default
  | some v =>
    by_cases showable : v.IsShowable levels
    · dsimp only
      rw [Toml.isShowable_iff.mp showable]
      exact of_ok v.shown
    · exact fun _ _ _ => hidden v found showable

end EscapesOnlyIf

/-! ### Numbers of seconds -/

theorem lookup?_of_tableAt (given : tableAt root table = .ok entries) :
    Toml.lookup? table root = some (.table entries) ∨
      Toml.lookup? table root = none ∧ entries = [] := by
  rw [tableAt] at given
  cases found : Toml.lookup? table root with
  | none =>
    rw [found] at given
    cases given
    exact .inr ⟨rfl, rfl⟩
  | some v =>
    rw [found] at given
    cases v <;> cases given
    exact .inl rfl

theorem entryOf?_of_tableAt (given : tableAt root table = .ok entries) (key : String) :
    entryOf? root table key = Toml.lookup? key entries := by
  rcases lookup?_of_tableAt given with found | ⟨found, rfl⟩ <;> rw [entryOf?, found] <;> rfl

theorem eq_bind_of_valueAt {r : Requirement} {read : Toml → Option α} {value : Option α}
    (found : valueAt table entries key r read = .ok value) :
    value = (Toml.lookup? key entries).bind read := by
  rw [valueAt] at found
  cases given : Toml.lookup? key entries with
  | none =>
    rw [given] at found
    cases found
    rfl
  | some v =>
    rw [given] at found
    rw [Option.bind_some]
    dsimp only at found
    cases same : read v with
    | none =>
      rw [same] at found
      cases found
    | some a =>
      rw [same] at found
      cases found
      rfl

theorem eq_int_of_number? {v : Toml} {i : Int} (number : number? v = some (.int i)) :
    v = .int i := by
  cases v <;> cases number
  rfl

theorem EscapesOnlyIf.timeAt (default : Binary64)
    (large : ∀ i, Toml.lookup? key entries = some (.int i) → Binary64.ofInt? i = none → p) :
    EscapesOnlyIf p (timeAt table entries key default) := by
  rw [Config.timeAt]
  refine (valueAt table entries key .number number?).bind fun n found => ?_
  cases n with
  | none => exact of_ok default
  | some n =>
    cases n with
    | float x => exact of_ok x
    | int i =>
      cases converted : Binary64.ofInt? i with
      | none =>
        obtain ⟨v, given, number⟩ := Option.bind_eq_some_iff.mp (eq_bind_of_valueAt found).symm
        exact fun _ _ _ => large i (eq_int_of_number? number ▸ given) converted
      | some x =>
        dsimp only
        rw [toTime, converted]
        exact of_ok x

theorem eq_table_of_require {v : Toml} {name : String}
    (read : require name .table (entries? v) = .ok entries) : v = .table entries := by
  cases v <;> cases read
  rfl

theorem Overruns.of_declaration (given : tableAt root table = .ok entries) {e : String × Toml}
    (member : e ∈ entries) {declaration : Toml.Entries} {v : Toml}
    (listed : (table, key) ∈ textKeys)
    (declared : e.2 = .table declaration) (value : Toml.lookup? key declaration = some v)
    (hidden : ¬v.IsShowable levels) : Overruns levels homes root := by
  have entry : e = (e.1, .table declaration) := Prod.ext rfl declared
  rcases lookup?_of_tableAt given with found | ⟨-, rfl⟩
  · exact .text listed found (entry ▸ member) value hidden
  · exact absurd member List.not_mem_nil

theorem EscapesOnlyIf.annotationOf {e : String × Toml}
    (hidden : ∀ declaration key v, ("annotations", key) ∈ textKeys → e.2 = .table declaration →
      Toml.lookup? key declaration = some v → ¬v.IsShowable levels → p) :
    EscapesOnlyIf p (annotationOf levels e) := by
  refine (require _ .table _).bind fun declaration read => ?_
  have given := eq_table_of_require read
  refine (kindAt _ _ _ _ _).bind fun kind _ => ?_
  refine (textOr "" fun v => hidden declaration _ v (by decide) given).bind fun displayName _ => ?_
  refine (textOr Annotation.sensitive fun v => hidden declaration _ v (by decide) given).bind
    fun sensitivity _ => ?_
  exact of_ok _

theorem EscapesOnlyIf.fieldOf {e : String × Toml}
    (hidden : ∀ declaration key v, ("fields", key) ∈ textKeys → e.2 = .table declaration →
      Toml.lookup? key declaration = some v → ¬v.IsShowable levels → p) :
    EscapesOnlyIf p (fieldOf levels e) := by
  refine (require _ .table _).bind fun declaration read => ?_
  have given := eq_table_of_require read
  refine (kindAt _ _ _ _ _).bind fun kind _ => ?_
  refine (textOr "" fun v => hidden declaration _ v (by decide) given).bind fun displayName _ => ?_
  exact of_ok _

theorem EscapesOnlyIf.corpusOf :
    EscapesOnlyIf (Overruns levels homes root) (corpusOf levels root) := by
  refine (tableAt root "annotations").bind fun declared given => ?_
  refine (mapM fun e member => annotationOf fun _ _ _ => .of_declaration given member).bind
    fun annotations _ => ?_
  refine (tableAt root "fields").bind fun declared given => ?_
  refine (mapM fun e member => fieldOf fun _ _ _ => .of_declaration given member).bind
    fun fields _ => ?_
  refine (tableAt root "corpus").bind fun sizes _ => ?_
  refine (valueAt _ _ _ _ _).bind fun documents _ => ?_
  exact (valueAt _ _ _ _ _).bind fun tokens _ => of_ok _

/-! ### Whole files -/

theorem EscapesOnlyIf.timeAt_listed (listed : (table, key) ∈ timeKeys) (default : Binary64)
    (given : Config.tableAt root table = .ok entries) :
    EscapesOnlyIf (Overruns levels homes root) (Config.timeAt table entries key default) := by
  refine timeAt default fun i number large => .time listed ?_ large
  rw [entryOf?_of_tableAt given, number]

theorem EscapesOnlyIf.ofEntries (home : FilePath) :
    EscapesOnlyIf (Overruns levels homes root) (ofEntries levels home root) := by
  -- the tables one after the other, each followed by what is read from it
  refine (tableAt root "backend").bind fun backend given => ?_
  refine (valueAt _ _ _ _ _).bind fun url _ => ?_
  refine (valueAt _ _ _ _ _).bind fun corpusId _ => ?_
  refine (timeAt_listed (by decide) _ given).bind fun timeout _ => ?_
  refine (tableAt root "interface").bind fun interface _ => ?_
  refine (valueAt _ _ _ _ _).bind fun basePath _ => ?_
  refine (valueAt _ _ _ _ _).bind fun primary _ => ?_
  refine (valueAt _ _ _ _ _).bind fun extended _ => ?_
  refine (valueAt _ _ _ _ _).bind fun advanced _ => ?_
  refine (valueAt _ _ _ _ _).bind fun ngramMaxSize _ => ?_
  refine (valueAt _ _ _ _ _).bind fun maxLength _ => ?_
  refine (tableAt root "polling").bind fun polling given => ?_
  refine (timeAt_listed (by decide) _ given).bind fun pollInterval _ => ?_
  refine (timeAt_listed (by decide) _ given).bind fun debounce _ => ?_
  refine (tableAt root "history").bind fun history _ => ?_
  refine (valueAt _ _ _ _ _).bind fun database _ => ?_
  refine (valueAt _ _ _ _ _).bind fun maxEntries _ => ?_
  refine (tableAt root "display").bind fun display _ => ?_
  refine (valueAt _ _ _ _ _).bind fun colored _ => ?_
  exact corpusOf.bind fun corpus _ => of_ok _

theorem EscapesOnlyIf.checked {c : Config} (unknown : c.historyPath.expand? homes = none → p) :
    EscapesOnlyIf p (c.checked homes) := by
  rw [Config.checked]
  cases found : c.historyPath.expand? homes with
  | none => exact fun _ _ _ => unknown found
  | some path =>
    refine (of_ok path).bind fun path _ => ?_
    split
    · exact of_invalid _ _
    split
    · exact of_invalid _ _
    split
    · exact of_invalid _ _
    exact of_ok _

theorem EscapesOnlyIf.homeOf (homes : Homes) :
    EscapesOnlyIf (Overruns levels homes root) (homeOf homes) := by
  rw [Config.homeOf]
  cases unknown : homes "" with
  | none => exact fun _ _ _ => .home unknown
  | some text => exact of_ok _

/-! ### What was loaded -/

theorem of_ofEntries {home : FilePath} {c : Config} (found : ofEntries levels home root = .ok c) :
    (∀ table key, (table, key) ∈ timeKeys → ∃ entries default x,
      tableAt root table = .ok entries ∧ timeAt table entries key default = .ok x) ∧
    corpusOf levels root = .ok c.corpus ∧ c.historyPath = historyPathOf home root := by
  simp only [ofEntries, bind_eq_ok] at found
  obtain ⟨backend, atBackend, _, -, _, -, timeout, readTimeout, found⟩ := found
  obtain ⟨_, -, _, -, _, -, _, -, _, -, found⟩ := found
  obtain ⟨_, -, _, -, polling, atPolling, interval, readInterval, found⟩ := found
  obtain ⟨debounce, readDebounce, history, atHistory, database, readDatabase, found⟩ := found
  obtain ⟨_, -, _, -, _, -, corpus, declared, found⟩ := found
  cases found
  refine ⟨?times, declared, ?path⟩
  case times =>
    intro table key listed
    simp only [timeKeys, List.mem_cons, Prod.mk.injEq, List.not_mem_nil, or_false] at listed
    rcases listed with ⟨rfl, rfl⟩ | ⟨rfl, rfl⟩ | ⟨rfl, rfl⟩
    · exact ⟨backend, _, timeout, atBackend, readTimeout⟩
    · exact ⟨polling, _, interval, atPolling, readInterval⟩
    · exact ⟨polling, _, debounce, atPolling, readDebounce⟩
  case path =>
    rw [historyPathOf, entryOf?_of_tableAt atHistory, ← eq_bind_of_valueAt readDatabase]

theorem EscapesOnlyIf.load (limits : Limits) (homes : Homes) (path text : String) :
    EscapesOnlyIf (Unloadable limits homes text) (load limits homes path (some text)) := by
  rw [Config.load]
  cases read : Toml.read limits.calls text with
  | error f =>
    cases f with
    | malformed => rintro _ ⟨⟩ ⟨⟩
    | integerTooLong => exact fun _ _ _ => .inl read
    | tooDeep => exact fun _ _ _ => .inr (.inl read)
  | ok root =>
    have implies (overruns : Overruns limits.levels homes root) : Unloadable limits homes text :=
      .inr (.inr ⟨root, read, overruns⟩)
    refine mono implies ?_
    refine (of_ok root).bind fun root' same => ?_
    cases same
    refine (homeOf homes).bind fun home known => ?_
    refine (ofEntries home).bind fun c found => ?_
    refine (checked fun unknown => ?_).bind fun d _ => of_ok _
    exact .historyPath known ((of_ofEntries found).2.2 ▸ unknown)

end

/-- Nor is a list that is nested more deeply than there is room for, however much room there is. -/
theorem load_opened (limits : Limits) (homes : Homes) (path : String) :
    load limits homes path (some (Toml.opened (limits.calls + 1))) =
      .error (.unreadable .tooDeep) := by
  rw [load, Toml.read_opened]
  rfl

end Config

end Concordance
