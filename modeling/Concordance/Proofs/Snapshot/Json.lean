import Concordance.Snapshot.Json
import Concordance.Proofs.Except
import Concordance.Proofs.Json.Reread

/-! Snapshots read back from the data exchange format, and from its texts if none of their integers
is too long. -/

namespace Concordance

open Form

/-! ### Parts of a snapshot -/

theorem Json.optionalTextOf_optionalText (s : Option String) :
    optionalTextOf (.optionalText s) = .ok s := by
  cases s <;> rfl

theorem Json.optionalIntOf_ofOption (i : Option Int) :
    optionalIntOf (.ofOption .int i) = .ok i := by
  cases i <;> rfl

theorem Json.optionalNumberOf_ofOption (n : Option Number) :
    optionalNumberOf (.ofOption .ofNumber n) = .ok n := by
  cases n with
  | none => rfl
  | some n => cases n <;> rfl

theorem Json.textsOf_strings (xs : List String) : textsOf (.strings xs) = .ok xs :=
  mapM_inverse Json.str (fun _ => rfl) xs

theorem keyed_inverse {α : Type} {write : α → Json} {read : Json → Result α}
    (inverse : ∀ a, read (write a) = .ok a) (values : Keyed α) :
    keyed read (.obj (values.map write).entries) = .ok values := by
  have entries : (values.map write).entries.mapM (fun m => do
      let v ← read m.2
      pure (m.1, v)) = (.ok values.entries : Result _) := by
    refine mapM_inverse (fun e : String × α => (e.1, write e.2)) (fun e => ?_) values.entries
    rw [inverse]
    rfl
  rw [keyed, members, ok_bind, entries, ok_bind, Keyed.ofList_entries]

theorem AnnotationKind.ofName?_name (k : AnnotationKind) : ofName? k.name = some k := by
  cases k <;> rfl

theorem FieldKind.ofName?_name (k : FieldKind) : ofName? k.name = some k := by
  cases k <;> rfl

theorem AnnotationValue.ofJson_toJson (v : AnnotationValue) : ofJson v.toJson = .ok v := by
  simp [ofJson, toJson, required, orElse, Json.get?, textOf, Json.truthy, ok_bind,
    AnnotationKind.ofName?_name]

theorem FilterValue.ofJson_toJson (f : FilterValue) : ofJson f.toJson = .ok f := by
  simp [ofJson, toJson, required, Json.get?, textOf, Json.textsOf_strings, ok_bind,
    FieldKind.ofName?_name]

theorem Slot.ofJson_toJson (s : Slot) : ofJson s.toJson = .ok s := by
  simp [ofJson, toJson, only, members, required, orElse, Json.get?, textOf, Json.truthy, ok_bind]

theorem View.modeOf?_name (m : Mode) : modeOf? m.name = some m := by
  cases m with
  | search m => cases m <;> rfl
  | explore m => cases m <;> rfl

theorem View.ofMode_toJson (v : View) : ofMode v.toJson v.mode = .ok v := by
  cases v with
  | simple value =>
    simp [mode, ofMode, toJson, required, Json.get?, ok_bind, AnnotationValue.ofJson_toJson]
  | extended values within splitBatch =>
    simp [mode, ofMode, toJson, orElse, Json.get?, ok_bind, Json.truthy,
      Json.optionalTextOf_optionalText, keyed_inverse AnnotationValue.ofJson_toJson]
  | advanced pattern =>
    simp [mode, ofMode, patternOf, only, members, toJson, orElse, Json.get?, ok_bind,
      Json.optionalTextOf_optionalText, Except.map]
  | expert pattern =>
    simp [mode, ofMode, patternOf, only, members, toJson, orElse, Json.get?, ok_bind,
      Json.optionalTextOf_optionalText, Except.map]
  | frequency id =>
    simp [mode, ofMode, only, members, toJson, required, Json.get?, ok_bind, textOf]
  | ngram group size maxSize slots =>
    simp [mode, ofMode, only, members, toJson, required, orElse, Json.get?, ok_bind, textOf,
      intOf, mapM_inverse Slot.toJson Slot.ofJson_toJson]
  | corpora groupBy displayMode =>
    simp [mode, ofMode, only, members, toJson, orElse, Json.get?, ok_bind,
      Json.optionalTextOf_optionalText]

theorem View.ofJson_toJson (v : View) : ofJson v.toJson = .ok (some v) := by
  have type : required .missing v.toJson "type" = .ok (.str v.mode.name) := by
    simp [toJson, required, Json.get?]
  have present : v.toJson.truthy := rfl
  rw [ofJson, present, type]
  simp [ok_bind, textOf, modeOf?_name, ofMode_toJson, Except.map]

theorem GlobalSettings.ofJson_toJson (g : GlobalSettings) : ofJson g.toJson = .ok g := by
  simp [ofJson, toJson, only, members, orElse, Json.get?, ok_bind, textOf, intOf,
    Json.optionalIntOf_ofOption, Json.optionalNumberOf_ofOption]

theorem ResultSettings.keysOf_strings {j : Json} {member : String} {xs : List String}
    (found : j.get? member = some (.strings xs)) : keysOf j member = .ok xs := by
  rw [keysOf, found]
  cases xs with
  | nil => rfl
  | cons x xs => exact Json.textsOf_strings (x :: xs)

theorem ResultSettings.ofJson_toJson (r : ResultSettings) : ofJson r.toJson = .ok r := by
  have groupBy : keysOf r.toJson "group_by" = .ok r.groupBy :=
    keysOf_strings (by simp [toJson, Json.get?])
  have contextKeys : keysOf r.toJson "group_by_advanced" = .ok r.contextKeys :=
    keysOf_strings (by simp [toJson, Json.get?])
  rw [ofJson, groupBy, contextKeys]
  simp [toJson, only, members, orElse, Json.get?, ok_bind, intOf, Json.truthy,
    Json.optionalTextOf_optionalText]

/-! ### Snapshots -/

namespace Snapshot

theorem objectAt_obj {j : Json} {key : String} {ms : List (String × Json)}
    (found : j.get? key = some (.obj ms)) : j.objectAt key = .obj ms := by
  rw [Json.objectAt, found]
  cases ms <;> rfl

theorem ofJson_toJson (x : Snapshot) : ofJson x.toJson = .ok x := by
  have view : View.ofJson (.ofOption View.toJson x.view) = .ok x.view := by
    cases x.view with
    | none => rfl
    | some v => exact View.ofJson_toJson v
  have filters : x.toJson.objectAt "filters" = _ :=
    objectAt_obj (by simp [toJson, Json.get?]; rfl)
  have globals : x.toJson.objectAt "global_settings" = x.globals.toJson :=
    objectAt_obj (by simp [toJson, Json.get?]; rfl)
  have results : x.toJson.objectAt "results" = x.results.toJson :=
    objectAt_obj (by simp [toJson, Json.get?]; rfl)
  rw [ofJson, filters, globals, results, keyed_inverse FilterValue.ofJson_toJson,
    GlobalSettings.ofJson_toJson, ResultSettings.ofJson_toJson]
  simp [toJson, orElse, Json.get?, ok_bind, view, Json.optionalTextOf_optionalText]

end Snapshot

/-! ### Texts -/

section Readable

open Json (IsReadable)

theorem Json.isReadable_optionalText (s : Option String) : IsReadable (.optionalText s) := by
  cases s <;> exact trivial

theorem Json.isReadable_strings (xs : List String) : IsReadable (.strings xs) := by
  refine Json.areReadable_iff.mpr fun v member => ?_
  obtain ⟨s, -, rfl⟩ := List.mem_map.mp member
  exact trivial

theorem Json.isReadable_arr {α : Type} {write : α → Json} {xs : List α}
    (readable : ∀ x ∈ xs, IsReadable (write x)) : IsReadable (.arr (xs.map write)) :=
  Json.areReadable_iff.mpr (List.forall_mem_map.mpr readable)

theorem Json.isReadable_obj {ms : List (String × Json)} (distinct : (ms.map (·.1)).Nodup)
    (readable : ∀ m ∈ ms, IsReadable m.2) : IsReadable (.obj ms) :=
  ⟨distinct, Json.haveReadable_iff.mpr readable⟩

theorem Json.isReadable_keyed {α : Type} {write : α → Json}
    (readable : ∀ a, IsReadable (write a)) (values : Keyed α) :
    IsReadable (.obj (values.map write).entries) := by
  refine Json.isReadable_obj (values.map write).nodup fun m member => ?_
  obtain ⟨e, -, rfl⟩ := List.mem_map.mp member
  exact readable e.2

theorem Json.isReadable_ofOption {i : Option Int} (short : ∀ n ∈ i, Numeral.IsShort n) :
    IsReadable (.ofOption .int i) := by
  cases i with
  | none => exact trivial
  | some n => exact short n rfl

theorem AnnotationValue.isReadable_toJson (v : AnnotationValue) : v.toJson.IsReadable :=
  ⟨by simp, trivial, trivial, trivial, trivial, trivial⟩

theorem FilterValue.isReadable_toJson (f : FilterValue) : f.toJson.IsReadable :=
  ⟨by simp, trivial, trivial, Json.isReadable_strings _, trivial⟩

theorem Slot.isReadable_toJson (s : Slot) : s.toJson.IsReadable :=
  ⟨by simp, trivial, trivial, trivial, trivial⟩

end Readable

namespace Snapshot

/-- Every integer of a snapshot is short enough to be written and read. -/
structure HasShortIntegers (x : Snapshot) : Prop where
  ngram : ∀ group size maxSize slots, x.view = some (.ngram group size maxSize slots) →
    Numeral.IsShort size ∧ Numeral.IsShort maxSize
  pageSize : Numeral.IsShort x.globals.pageSize
  sampleSize : ∀ i, x.globals.sampleSize = some (.int i) → Numeral.IsShort i
  sampleSeed : ∀ i ∈ x.globals.sampleSeed, Numeral.IsShort i
  wordsAroundHit : ∀ i ∈ x.globals.wordsAroundHit, Numeral.IsShort i
  page : Numeral.IsShort x.results.page

theorem hasShortIntegers_ofView {v : View} (ngram : ∀ group size maxSize slots,
    v = .ngram group size maxSize slots → Numeral.IsShort size ∧ Numeral.IsShort maxSize) :
    (ofView v).HasShortIntegers where
  ngram := fun group size maxSize slots view =>
    ngram group size maxSize slots (Option.some.inj view)
  pageSize := by
    change (Numeral.decimal 50).length ≤ Numeral.maxDigits
    decide
  sampleSize := nofun
  sampleSeed := nofun
  wordsAroundHit := nofun
  page := by
    change (Numeral.decimal 0).length ≤ Numeral.maxDigits
    decide

theorem HasShortIntegers.isReadable_view {x : Snapshot} (short : x.HasShortIntegers) :
    (Json.ofOption View.toJson x.view).IsReadable := by
  cases view : x.view with
  | none => exact trivial
  | some v =>
    cases v with
    | simple value => exact ⟨by simp, trivial, value.isReadable_toJson, trivial⟩
    | extended values within splitBatch =>
      exact ⟨by simp, trivial, Json.isReadable_keyed AnnotationValue.isReadable_toJson values,
        Json.isReadable_optionalText within, trivial, trivial⟩
    | advanced pattern => exact ⟨by simp, trivial, Json.isReadable_optionalText pattern, trivial⟩
    | expert pattern => exact ⟨by simp, trivial, Json.isReadable_optionalText pattern, trivial⟩
    | frequency id => exact ⟨by simp, trivial, trivial, trivial⟩
    | ngram group size maxSize slots =>
      obtain ⟨least, most⟩ := short.ngram group size maxSize slots view
      exact ⟨by simp, trivial, trivial, least, most,
        Json.isReadable_arr fun slot _ => slot.isReadable_toJson, trivial⟩
    | corpora groupBy displayMode =>
      exact ⟨by simp, trivial, Json.isReadable_optionalText groupBy,
        Json.isReadable_optionalText displayMode, trivial⟩

theorem HasShortIntegers.isReadable_toJson {x : Snapshot} (short : x.HasShortIntegers) :
    x.toJson.IsReadable := by
  have size : (Json.ofOption Json.ofNumber x.globals.sampleSize).IsReadable := by
    cases given : x.globals.sampleSize with
    | none => exact trivial
    | some n =>
      cases n with
      | int i => exact short.sampleSize i given
      | float _ => exact trivial
  have globals : x.globals.toJson.IsReadable :=
    ⟨by simp, short.pageSize, trivial, size, Json.isReadable_ofOption short.sampleSeed,
      Json.isReadable_ofOption short.wordsAroundHit, trivial⟩
  have results : x.results.toJson.IsReadable :=
    ⟨by simp, Json.isReadable_strings _, Json.isReadable_strings _, trivial,
      Json.isReadable_optionalText _, Json.isReadable_optionalText _, short.page,
      Json.isReadable_optionalText _, trivial⟩
  exact ⟨by simp, short.isReadable_view, Json.isReadable_keyed FilterValue.isReadable_toJson _,
    Json.isReadable_optionalText _, globals, Json.isReadable_optionalText _, results, trivial⟩

end Snapshot

end Concordance
