import Concordance.Binary64.Basic
import Concordance.Toml.Moment

/-! Values of configuration files. -/

namespace Concordance

inductive Toml
  | str (s : String)
  | int (i : Int)
  | float (x : Binary64)
  | bool (b : Bool)
  | date (d : Toml.Date)
  | time (t : Toml.Time)
  | moment (m : Toml.Moment)
  | arr (items : List Toml)
  | table (entries : List (String × Toml))
  deriving Repr, Inhabited

namespace Toml

/-- Why a file cannot be read, or a value of it cannot be shown: the file breaks the rules of the
format, an integer has more than `Numeral.maxDigits` digits, or values are nested too deeply. -/
inductive Failure
  | malformed
  | integerTooLong
  | tooDeep
  deriving DecidableEq, Repr

abbrev Entries := List (String × Toml)

def lookup? (key : String) (entries : Entries) : Option Toml :=
  (entries.find? (·.1 = key)).map (·.2)

def isBareChar (c : Char) : Bool := c.isAlphanum || c == '-' || c == '_'

/-- What counts as true: not false, no zero, and not empty. -/
def truthy : Toml → Bool
  | str s => !s.isEmpty
  | int i => i != 0
  | float x => !x.same .zero
  | bool b => b
  | date _ | time _ | moment _ => true
  | arr items => !items.isEmpty
  | table entries => !entries.isEmpty

/-! ### Equality -/

mutual

/-- Whether two values are equal, part by part; a float that is no number equals itself here. -/
def identical : Toml → Toml → Bool
  | .str s, .str t => s = t
  | .int i, .int j => i = j
  | .float x, .float y => x = y
  | .bool a, .bool b => a = b
  | .date d, .date e => d = e
  | .time t, .time u => t = u
  | .moment m, .moment n => m = n
  | .arr vs, .arr ws => identicalItems vs ws
  | .table es, .table fs => identicalEntries es fs
  | _, _ => false

def identicalItems : List Toml → List Toml → Bool
  | [], [] => true
  | v :: vs, w :: ws => identical v w && identicalItems vs ws
  | _, _ => false

def identicalEntries : List (String × Toml) → List (String × Toml) → Bool
  | [], [] => true
  | (k, v) :: es, (l, w) :: fs => k = l && identical v w && identicalEntries es fs
  | _, _ => false

end

mutual

theorem identical_iff (v w : Toml) : identical v w ↔ v = w := by
  cases v <;> cases w <;> simp [identical]
  case arr.arr vs ws => exact identicalItems_iff vs ws
  case table.table es fs => exact identicalEntries_iff es fs

theorem identicalItems_iff (vs ws : List Toml) : identicalItems vs ws ↔ vs = ws := by
  cases vs with
  | nil => cases ws <;> simp [identicalItems]
  | cons v vs =>
    cases ws with
    | nil => simp [identicalItems]
    | cons w ws => simp [identicalItems, identical_iff v w, identicalItems_iff vs ws]

theorem identicalEntries_iff (es fs : List (String × Toml)) :
    identicalEntries es fs ↔ es = fs := by
  cases es with
  | nil => cases fs <;> simp [identicalEntries]
  | cons e es =>
    obtain ⟨k, v⟩ := e
    cases fs with
    | nil => simp [identicalEntries]
    | cons f fs =>
      obtain ⟨l, w⟩ := f
      simp [identicalEntries, identical_iff v w, identicalEntries_iff es fs]

end

instance : DecidableEq Toml := fun v w => decidable_of_iff (identical v w) (identical_iff v w)

end Toml

end Concordance
