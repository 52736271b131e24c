import Concordance.Proofs.Link.Prepared

/-! What an address is read as can be searched for and linked again, unless it asks for a sample
without a seed. An address with an interface that is nested too deeply is not read. -/

namespace Concordance

/-! ### Integers that are read -/

namespace Numeral

theorem isShort_iff {i : Int} : IsShort i ↔ i.natAbs < 10 ^ maxDigits :=
  Nat.length_toDigits_le_iff (by decide) (by decide)

theorem isShort_of_integer? {cs : List Char} {i : Int} (found : integer? cs = some i) :
    IsShort i := by
  rw [integer?] at found
  dsimp only at found
  have small := digits_lt (sign (Text.trimBy isPadding cs)).2
  split at found
  · next d ds digits =>
    rw [digits] at small
    rw [Option.ite_none_right_eq_some] at found
    obtain ⟨short, value⟩ := found
    have value : i.natAbs = ofDigits (d :: ds) := by
      rw [← Option.some.inj value]
      split <;> omega
    rw [isShort_iff, value]
    exact Nat.lt_of_lt_of_le (ofDigits_lt_of_lt small) (Nat.pow_le_pow_right (by decide) short)
  · cases found

theorem isShort_of_natAbs_le {i j : Int} (short : IsShort j) (le : i.natAbs ≤ j.natAbs) :
    IsShort i := isShort_iff.mpr (Nat.lt_of_le_of_lt le (isShort_iff.mp short))

end Numeral

open Numeral (IsShort)

theorem Binary64.isShort_of_truncate? {x : Binary64} {i : Int} (found : x.truncate? = some i) :
    IsShort i := by
  cases x with
  | nan => cases found
  | infinite negative => cases found
  | finite negative place =>
    have most : (ratio (magnitudes - 1)).1 / (ratio (magnitudes - 1)).2 <
        10 ^ Numeral.maxDigits := by
      decide +kernel
    have whole : i.natAbs = (ratio place).1 / (ratio place).2 := by
      rw [← Option.some.inj found]
      cases negative with
      | true => exact (Int.natAbs_neg _).trans (Int.natAbs_natCast _)
      | false => exact Int.natAbs_natCast _
    rw [Numeral.isShort_iff, whole]
    exact Nat.lt_of_le_of_lt (div_ratio_mono (Nat.le_sub_one_of_lt place.isLt)) most

theorem Number.isShort_of_read? {cs : List Char} {n : Number} {i : Int} (read : read? cs = some n)
    (whole : n.integer? = some i) : IsShort i := by
  rw [read?] at read
  split at read
  · next j found =>
    rw [← Option.some.inj read] at whole
    cases whole
    exact Numeral.isShort_of_integer? found
  · obtain ⟨x, -, rfl⟩ := Option.map_eq_some_iff.mp read
    exact Binary64.isShort_of_truncate? (Option.ite_none_right_eq_some.mp whole).2

namespace Site

variable {s : Settings} {params : Params} {name : String}

theorem isShort_integerOf? {i : Int} (found : integerOf? params name = some i) : IsShort i := by
  obtain ⟨n, read, whole⟩ := Option.bind_eq_some_iff.mp found
  obtain ⟨text, -, read⟩ := Option.bind_eq_some_iff.mp read
  exact Number.isShort_of_read? read whole

theorem isShort_sampleSize {i : Int} (size : (globalsOf params).sampleSize = some (.int i)) :
    IsShort i := by
  rw [globalsOf] at size
  dsimp only at size
  split at size
  · next n count =>
    cases size
    exact isShort_integerOf? (Option.filter_eq_some_iff.mp count).1
  · obtain ⟨read, -⟩ := Option.filter_eq_some_iff.mp size
    obtain ⟨text, -, read⟩ := Option.bind_eq_some_iff.mp read
    exact Number.isShort_of_read? read rfl

theorem isShort_mul_zero (n : Int) : IsShort (n * 0) := by
  rw [Int.mul_zero]
  exact Link.isWritten_iff.mp (Link.isWritten_of_small (Int.le_refl 0) (by decide))

theorem isShort_first (params : Params) (groups : GroupSpec) (displayMode : Option String)
    {pageSize : Int} (positive : 0 < pageSize) :
    IsShort (pageSize * (resultsOf params groups displayMode pageSize).page) := by
  rw [resultsOf]
  dsimp only
  split
  · next first found =>
    split
    · next after =>
      refine Numeral.isShort_of_natAbs_le (isShort_integerOf? found) ?_
      have page : 0 ≤ first / pageSize :=
        Int.ediv_nonneg (Int.le_of_lt after) (Int.le_of_lt positive)
      have low : 0 ≤ pageSize * (first / pageSize) := Int.mul_nonneg (Int.le_of_lt positive) page
      have high : pageSize * (first / pageSize) ≤ first :=
        Int.mul_ediv_self_le (Int.ne_of_gt positive)
      omega
    · exact isShort_mul_zero pageSize
  · exact isShort_mul_zero pageSize

theorem isShort_first_snapshotOf (s : Settings) (viewed : Option String) (params : Params) :
    IsShort ((globalsOf params).pageSize * (snapshotOf s viewed params).results.page) := by
  rw [snapshotOf]
  dsimp only
  split
  · exact isShort_first params _ _ (GlobalSettings.isRead_globalsOf params).pageSize_pos
  · exact isShort_mul_zero _

theorem exists_texts_read (s : Settings) (viewed : Option String) (params : Params) (v : View) :
    ∃ texts, Link.texts? ((snapshotOf s viewed params).request s v).pairs = some texts := by
  have read := GlobalSettings.isRead_globalsOf params
  have size (mode : String) (i : Int)
      (given : (globalsOf params).sizeIn mode = some (.int i)) : Link.isWritten i := by
    rw [GlobalSettings.sizeIn, Option.ite_none_right_eq_some] at given
    exact Link.isWritten_iff.mpr (isShort_sampleSize given.2)
  apply Link.exists_texts?_pairs
  case first => exact Link.isWritten_iff.mpr (isShort_first_snapshotOf s viewed params)
  case number =>
    have known := read.pageSize
    simp only [GlobalSettings.pageSizes, List.mem_cons, List.not_mem_nil, or_false] at known
    have number : ((snapshotOf s viewed params).request s v).number = (globalsOf params).pageSize :=
      rfl
    rw [number]
    exact Link.isWritten_of_small (Int.le_of_lt read.pageSize_pos) (by omega)
  case sample => exact size _
  case sampleCount => exact size _
  case seed =>
    intro i given
    exact Link.isWritten_iff.mpr (isShort_integerOf? (Option.ite_none_right_eq_some.mp given).2)
  case words =>
    intro i given
    exact Link.isWritten_iff.mpr (isShort_integerOf? (Option.filter_eq_some_iff.mp given).1)

end Site

/-! ### Addresses that say something usable -/

theorem GlobalSettings.IsRead.validate_eq {g : GlobalSettings} (read : g.IsRead) : g.validate =
    if g.sampleSize.isSome && g.sampleSeed.isNone then .error .sampleWithoutSeed else .ok () := by
  have known : g.sampleMode = SampleMode.percentage ∨ g.sampleMode = SampleMode.count :=
    read.sample.imp (·.1) (·.1)
  rw [validate, if_pos known]

/-- A sample is asked for without the seed that it takes. -/
def Snapshot.IsSeedless (x : Snapshot) : Prop :=
  x.viewed.isSome ∧ x.globals.sampleSize.isSome ∧ x.globals.sampleSeed = none

namespace Site

def IsUsable (site : Site) (x : Snapshot) : Prop :=
  (∃ search, x.parameters site.settings = .ok search) ∧ ∃ e, site.encode x = .ok e

section Read

variable (site : Site) (viewed : Option String) (params : Params)

theorem isRead_globals_snapshotOf (s : Settings) : (snapshotOf s viewed params).globals.IsRead :=
  GlobalSettings.isRead_globalsOf params

theorem refused_of_isSeedless (seedless : (snapshotOf site.settings viewed params).IsSeedless) :
    (snapshotOf site.settings viewed params).parameters site.settings =
        .error .sampleWithoutSeed ∧
      site.encode (snapshotOf site.settings viewed params) =
        .error (.unusable .sampleWithoutSeed) := by
  obtain ⟨shown, size, seed⟩ := seedless
  have invalid : (snapshotOf site.settings viewed params).globals.validate =
      .error .sampleWithoutSeed := by
    rw [(isRead_globals_snapshotOf _ _ _).validate_eq]
    exact if_pos (Bool.and_eq_true_iff.mpr ⟨size, Option.isNone_iff_eq_none.mpr seed⟩)
  have refused : (snapshotOf site.settings viewed params).parameters site.settings =
      .error .sampleWithoutSeed := by
    rw [Snapshot.parameters_eq shown rfl, invalid]
    rfl
  refine ⟨refused, ?_⟩
  rw [encode, Site.params, refused]
  rfl

theorem isUsable_of_not_isSeedless
    (seeded : ¬(snapshotOf site.settings viewed params).IsSeedless) :
    site.IsUsable (snapshotOf site.settings viewed params) := by
  cases shown : viewed with
  | none =>
    have asked : (snapshotOf site.settings none params).parameters site.settings = .ok none := rfl
    exact ⟨⟨none, asked⟩, exists_encode asked rfl⟩
  | some name =>
    rw [shown] at seeded
    have valid : (snapshotOf site.settings (some name) params).globals.validate = .ok () := by
      rw [(isRead_globals_snapshotOf _ _ _).validate_eq]
      refine if_neg fun invalid => seeded ⟨rfl, ?_⟩
      exact (Bool.and_eq_true_iff.mp invalid).imp id Option.isNone_iff_eq_none.mp
    have asked := Snapshot.parameters_of_valid (s := site.settings)
      (x := snapshotOf site.settings (some name) params) rfl rfl valid
    obtain ⟨texts, found⟩ := exists_texts_read site.settings (some name) params _
    exact ⟨⟨_, asked⟩, exists_encode asked found⟩

end Read

/-- An address names a result view and asks for a sample, without a valid seed. -/
def IsSeedless (url : String) : Prop :=
  (viewedOf url).isSome ∧ (globalsOf (paramsOf url)).sampleSize.isSome ∧
    (globalsOf (paramsOf url)).sampleSeed = none

theorem isSeedless_snapshotOf (s : Settings) (url : String) :
    (snapshotOf s (viewedOf url) (paramsOf url)).IsSeedless ↔ IsSeedless url := by
  simp only [Snapshot.IsSeedless, snapshotOf, IsSeedless]

theorem refused_of_decode {site : Site} {depth : Nat} {url : String} {d : LinkState}
    (seedless : IsSeedless url) (read : site.decode depth url = .ok d) :
    d.toSnapshot.parameters site.settings = .error .sampleWithoutSeed ∧
      site.encode d.toSnapshot = .error (.unusable .sampleWithoutSeed) := by
  rw [toSnapshot_of_decode read]
  exact refused_of_isSeedless site _ _ ((isSeedless_snapshotOf site.settings url).mpr seedless)

/-- Every address says something usable, but for two kinds. Where the data of the interface is
nested too deeply nothing is read. A sample without a seed is read, but cannot be searched for, and
no address can be made of it again. -/
theorem decode_usable_iff (site : Site) (depth : Nat) (url : String) :
    ((∃ d, site.decode depth url = .ok d ∧ site.IsUsable d.toSnapshot) ↔
      ¬IsTooDeep depth (paramsOf url) ∧ ¬IsSeedless url) ∧
    (IsTooDeep depth (paramsOf url) → site.decode depth url = .error .tooDeep) ∧
    (¬IsTooDeep depth (paramsOf url) → IsSeedless url → ∃ d, site.decode depth url = .ok d ∧
      d.toSnapshot.parameters site.settings = .error .sampleWithoutSeed ∧
      site.encode d.toSnapshot = .error (.unusable .sampleWithoutSeed)) := by
  refine ⟨⟨?_, ?_⟩, decode_of_isTooDeep site, ?_⟩
  · rintro ⟨d, read, ⟨search, asked⟩, -⟩
    refine ⟨(decode_eq_ok_iff.mp read).1, fun seedless => ?_⟩
    rw [(refused_of_decode seedless read).1] at asked
    cases asked
  · rintro ⟨shallow, seeded⟩
    obtain ⟨d, read, shown⟩ := exists_decode site depth shallow
    refine ⟨d, read, ?_⟩
    rw [shown]
    apply isUsable_of_not_isSeedless
    rwa [isSeedless_snapshotOf]
  · intro shallow seedless
    obtain ⟨d, read, -⟩ := exists_decode site depth shallow
    exact ⟨d, read, refused_of_decode seedless read⟩

/-- One hit in ten, but no seed. -/
theorem decode_unusable_seedless :
    ¬∃ d, library.decode 1000 "/search/hits?sample=10" = .ok d ∧
      library.IsUsable d.toSnapshot := by
  rintro ⟨d, read, ⟨search, asked⟩, -⟩
  have seedless : IsSeedless "/search/hits?sample=10" :=
    ⟨by decide +kernel, by decide +kernel, by decide +kernel⟩
  rw [(refused_of_decode seedless read).1] at asked
  cases asked

end Site

end Concordance
