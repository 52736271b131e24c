import Concordance.Proofs.Json.Sorted
import Concordance.Proofs.Navigation
import Concordance.Proofs.Snapshot.Json

/-! The stable text of a snapshot reads back as the snapshot, with the entries of its mappings by
name. So it tells snapshots apart exactly up to the order of those entries. -/

namespace Concordance

open Form
open Json (sorted get?_sorted)

/-! ### Parts of a snapshot -/

theorem Form.only_eq_ok {allowed : List String} {ms : List (String × Json)}
    (known : ∀ m ∈ ms, m.1 ∈ allowed) : only allowed (.obj ms) = .ok () := by
  have all : ms.find? (fun m => !allowed.contains m.1) = none := by
    refine List.find?_eq_none.mpr fun m member => ?_
    simpa using known m member
  rw [only, members, ok_bind, all]

theorem Form.only_sorted {allowed : List String} {ms : List (String × Json)}
    (known : ∀ m ∈ ms, m.1 ∈ allowed) : only allowed (sorted (.obj ms)) = .ok () := by
  rw [Json.sorted_obj]
  refine only_eq_ok fun m member => ?_
  obtain ⟨n, given, rfl⟩ := List.mem_map.mp ((Json.perm_sorted ms).mem_iff.mp member)
  exact known n given

theorem Json.sorted_optionalText (s : Option String) :
    sorted (.optionalText s) = .optionalText s := by
  cases s <;> rfl

theorem Json.sorted_strings (xs : List String) : sorted (.strings xs) = .strings xs := by
  rw [strings, sorted, sortedItems_eq, List.map_map]
  rfl

theorem Json.sorted_ofOption (i : Option Int) : sorted (.ofOption .int i) = .ofOption .int i := by
  cases i <;> rfl

theorem Json.sorted_number (n : Option Number) :
    sorted (.ofOption .ofNumber n) = .ofOption .ofNumber n := by
  cases n with
  | none => rfl
  | some n => cases n <;> rfl

theorem Json.sorted_str (s : String) : sorted (.str s) = .str s := rfl

theorem Json.sorted_bool (b : Bool) : sorted (.bool b) = .bool b := rfl

theorem Json.sorted_int (i : Int) : sorted (.int i) = .int i := rfl

theorem AnnotationValue.ofJson_sorted (v : AnnotationValue) : ofJson (sorted v.toJson) = .ok v := by
  simp [ofJson, toJson, required, orElse, get?_sorted, Json.sorted_str, Json.sorted_bool,
    textOf, Json.truthy, ok_bind, AnnotationKind.ofName?_name]

theorem FilterValue.ofJson_sorted (f : FilterValue) : ofJson (sorted f.toJson) = .ok f := by
  simp [ofJson, toJson, required, get?_sorted, Json.sorted_str, textOf,
    Json.sorted_strings, Json.textsOf_strings, ok_bind, FieldKind.ofName?_name]

theorem Slot.ofJson_sorted (s : Slot) : ofJson (sorted s.toJson) = .ok s := by
  have known : only ["id", "value", "case_sensitive"] (sorted s.toJson) = .ok () :=
    only_sorted (by simp)
  rw [ofJson, known, toJson]
  simp [required, orElse, get?_sorted, Json.sorted_str, Json.sorted_bool,
    textOf, Json.truthy, ok_bind]

theorem GlobalSettings.ofJson_sorted (g : GlobalSettings) : ofJson (sorted g.toJson) = .ok g := by
  have known : only ["page_size", "sample_mode", "sample_size", "sample_seed", "words_around_hit"]
      (sorted g.toJson) = .ok () := only_sorted (by simp)
  rw [ofJson, known, toJson]
  simp [orElse, get?_sorted, Json.sorted_str, Json.sorted_int, Json.sorted_ofOption,
    Json.sorted_number, textOf, intOf, Json.optionalIntOf_ofOption, Json.optionalNumberOf_ofOption,
    ok_bind]

theorem ResultSettings.ofJson_sorted (r : ResultSettings) : ofJson (sorted r.toJson) = .ok r := by
  have known : only ["group_by", "group_by_advanced", "case_sensitive", "sort", "view_group",
      "page", "group_display_mode"] (sorted r.toJson) = .ok () := only_sorted (by simp)
  have groupBy : keysOf (sorted r.toJson) "group_by" = .ok r.groupBy :=
    keysOf_strings (by simp [toJson, get?_sorted, Json.sorted_strings])
  have contextKeys : keysOf (sorted r.toJson) "group_by_advanced" = .ok r.contextKeys :=
    keysOf_strings (by simp [toJson, get?_sorted, Json.sorted_strings])
  rw [ofJson, known, groupBy, contextKeys, toJson]
  simp [orElse, get?_sorted, Json.sorted_bool, Json.sorted_int, Json.sorted_optionalText,
    intOf, Json.truthy, Json.optionalTextOf_optionalText, ok_bind]

theorem keyed_sorted {α : Type} {write : α → Json} {read : Json → Result α}
    (inverse : ∀ a, read (sorted (write a)) = .ok a) (values : Keyed α) :
    keyed read (sorted (.obj (values.map write).entries)) = .ok values.arranged := by
  have written : sorted (.obj (values.map write).entries) =
      .obj (values.arranged.map fun a => sorted (write a)).entries := by
    have moved := List.map_mergeSort (r := Keyed.nameLe) (s := Keyed.nameLe)
      (f := fun e : String × α => (e.1, sorted (write e.2))) (l := values.entries)
      fun _ _ _ _ => rfl
    rw [Json.sorted_obj, Keyed.map, List.map_map]
    exact congrArg Json.obj moved.symm
  rw [written, keyed_inverse inverse]

theorem sorted_keyed_eq_of_perm {α : Type} {write : α → Json} {m n : Keyed α}
    (same : m.entries.Perm n.entries) :
    sorted (.obj (m.map write).entries) = sorted (.obj (n.map write).entries) :=
  Json.sorted_obj_eq_of_perm (m.map write).nodup ((same.map _).map _)

namespace View

def arranged : View → View
  | extended values within splitBatch => extended values.arranged within splitBatch
  | v => v

theorem reordered_arranged (v : View) : v.arranged.Reordered v := by
  cases v with
  | extended values within splitBatch => exact .values values.perm_arranged within splitBatch
  | _ => exact .same _

theorem only_sorted_toJson {allowed : List String} {v : View}
    (known : ∀ m ∈ v.members, m.1 ∈ allowed) : only allowed (sorted v.toJson) = .ok () := by
  rw [toJson_eq]
  exact Form.only_sorted known

theorem patternOf_sorted {v : View} {pattern : Option String}
    (members : v.members = [("type", .str v.mode.name), ("pattern", .optionalText pattern)]) :
    patternOf (sorted v.toJson) = .ok pattern := by
  rw [patternOf, only_sorted_toJson (by simp [members]), ok_bind, toJson_eq, members]
  simp [orElse, get?_sorted, Json.sorted_optionalText, Json.optionalTextOf_optionalText]

theorem ofMode_sorted (v : View) : ofMode (sorted v.toJson) v.mode = .ok v.arranged := by
  cases v with
  | simple value =>
    simp [mode, ofMode, toJson, required, get?_sorted, ok_bind,
      AnnotationValue.ofJson_sorted, arranged]
  | extended values within splitBatch =>
    simp [mode, ofMode, toJson, orElse, get?_sorted, ok_bind, Json.truthy,
      Json.sorted_bool, Json.sorted_optionalText, Json.optionalTextOf_optionalText,
      keyed_sorted AnnotationValue.ofJson_sorted, arranged]
  | advanced pattern =>
    rw [mode, ofMode, patternOf_sorted rfl]
    rfl
  | expert pattern =>
    rw [mode, ofMode, patternOf_sorted rfl]
    rfl
  | frequency id =>
    have known : only ["type", "annotation_id"] (sorted (frequency id).toJson) = .ok () :=
      only_sorted_toJson (by simp [members, toJson])
    rw [mode, ofMode, known]
    simp [toJson, required, get?_sorted, ok_bind, Json.sorted_str, textOf, arranged]
  | ngram group size maxSize slots =>
    have known : only ["type", "group_annotation_id", "size", "max_size", "tokens"]
        (sorted (ngram group size maxSize slots).toJson) = .ok () :=
      only_sorted_toJson (by simp [members, toJson])
    have filled : (slots.map fun s => sorted s.toJson).mapM Slot.ofJson = .ok slots :=
      mapM_inverse _ Slot.ofJson_sorted slots
    have inOrder : sorted (.arr (slots.map Slot.toJson)) =
        .arr (slots.map fun s => sorted s.toJson) := by
      rw [sorted, Json.sortedItems_eq, List.map_map]
      rfl
    rw [mode, ofMode, known]
    simp [toJson, required, orElse, get?_sorted, ok_bind, Json.sorted_str,
      Json.sorted_int, textOf, intOf, arranged, inOrder, filled]
  | corpora groupBy displayMode =>
    have known : only ["type", "group_by", "group_display_mode"]
        (sorted (corpora groupBy displayMode).toJson) = .ok () :=
      only_sorted_toJson (by simp [members, toJson])
    rw [mode, ofMode, known]
    simp [toJson, orElse, get?_sorted, ok_bind, Json.sorted_optionalText,
      Json.optionalTextOf_optionalText, arranged]

theorem ofJson_sorted (v : View) : ofJson (sorted v.toJson) = .ok (some v.arranged) := by
  have type : required .missing (sorted v.toJson) "type" = .ok (.str v.mode.name) := by
    have found : (v.members.find? (·.1 = "type")).map (·.2) = some (.str v.mode.name) :=
      (Keyed.get?_eq_some_iff (m := ⟨v.members, v.nodup_members⟩)).mpr v.type_mem_members
    rw [required, toJson_eq, get?_sorted v.nodup_members, found]
    rfl
  have present : (sorted v.toJson).truthy := by
    rw [Json.truthy_sorted]
    rfl
  rw [ofJson, present, type]
  simp [ok_bind, textOf, modeOf?_name, ofMode_sorted, Except.map]

theorem Reordered.sorted_toJson {v w : View} (h : v.Reordered w) :
    sorted v.toJson = sorted w.toJson := by
  cases h with
  | same v => rfl
  | values typed within splitBatch =>
    rw [toJson, toJson, Json.sorted_obj, Json.sorted_obj]
    simp only [List.map_cons, sorted_keyed_eq_of_perm typed]
    rfl

theorem Reordered.symm {v w : View} (h : v.Reordered w) : w.Reordered v := by
  cases h with
  | same v => exact .same v
  | values typed within splitBatch => exact .values typed.symm within splitBatch

theorem Reordered.trans {u v w : View} (left : u.Reordered v) (right : v.Reordered w) :
    u.Reordered w := by
  cases left with
  | same u => exact right
  | values typed within splitBatch =>
    cases right with
    | same v => exact .values typed within splitBatch
    | values typed' within' splitBatch' =>
      exact .values (typed.trans typed') within splitBatch

/-! A view that may be missing. -/

section Missing

variable {o p q : Option View}

theorem rel_symm (h : Option.Rel Reordered o p) : Option.Rel Reordered p o := by
  cases h with
  | none => exact .none
  | some views => exact .some views.symm

theorem rel_trans (left : Option.Rel Reordered o p) (right : Option.Rel Reordered p q) :
    Option.Rel Reordered o q := by
  cases left with
  | none => exact right
  | some views =>
    cases right with
    | some views' => exact .some (views.trans views')

theorem sorted_ofOption_iff :
    sorted (.ofOption toJson o) = sorted (.ofOption toJson p) ↔ Option.Rel Reordered o p := by
  constructor
  · intro same
    cases o with
    | none =>
      cases p with
      | none => exact .none
      | some w => cases same
    | some v =>
      cases p with
      | none => cases same
      | some w => exact .some (reordered_of_sorted same)
  · intro views
    cases views with
    | none => rfl
    | some views => exact views.sorted_toJson

end Missing

end View

/-! ### Snapshots -/

namespace Snapshot

variable {x y z : Snapshot}

/-- The same snapshot, but for the order of the entries of its mappings. -/
structure Reordered (x y : Snapshot) : Prop where
  view : Option.Rel View.Reordered x.view y.view
  filters : x.filters.entries.Perm y.filters.entries
  gap : x.gap = y.gap
  globals : x.globals = y.globals
  viewed : x.viewed = y.viewed
  results : x.results = y.results

theorem Reordered.symm (h : x.Reordered y) : y.Reordered x :=
  ⟨View.rel_symm h.view, h.filters.symm, h.gap.symm, h.globals.symm, h.viewed.symm, h.results.symm⟩

theorem Reordered.trans (left : x.Reordered y) (right : y.Reordered z) : x.Reordered z where
  view := View.rel_trans left.view right.view
  filters := left.filters.trans right.filters
  gap := left.gap.trans right.gap
  globals := left.globals.trans right.globals
  viewed := left.viewed.trans right.viewed
  results := left.results.trans right.results

def arranged (x : Snapshot) : Snapshot :=
  { x with view := x.view.map View.arranged, filters := x.filters.arranged }

theorem reordered_arranged (x : Snapshot) : x.arranged.Reordered x where
  view := by
    rw [arranged]
    cases x.view with
    | none => exact .none
    | some v => exact .some v.reordered_arranged
  filters := x.filters.perm_arranged
  gap := rfl
  globals := rfl
  viewed := rfl
  results := rfl

theorem objectAt_sorted_toJson {key : String} {ms : List (String × Json)}
    (found : x.toJson.get? key = some (.obj ms)) :
    (sorted x.toJson).objectAt key = sorted (.obj ms) :=
  (Json.objectAt_sorted (by simp) key).trans (congrArg sorted (objectAt_obj found))

theorem ofJson_sorted (x : Snapshot) : ofJson (sorted x.toJson) = .ok x.arranged := by
  have view : View.ofJson (sorted (.ofOption View.toJson x.view)) =
      .ok (x.view.map View.arranged) := by
    cases x.view with
    | none => rfl
    | some v => exact v.ofJson_sorted
  have filters : (sorted x.toJson).objectAt "filters" =
      sorted (.obj (x.filters.map FilterValue.toJson).entries) :=
    objectAt_sorted_toJson (by simp [toJson, Json.get?])
  have globals : (sorted x.toJson).objectAt "global_settings" = sorted x.globals.toJson :=
    objectAt_sorted_toJson (by simp [toJson, Json.get?]; rfl)
  have results : (sorted x.toJson).objectAt "results" = sorted x.results.toJson :=
    objectAt_sorted_toJson (by simp [toJson, Json.get?]; rfl)
  rw [ofJson, filters, globals, results, keyed_sorted FilterValue.ofJson_sorted,
    GlobalSettings.ofJson_sorted, ResultSettings.ofJson_sorted]
  simp [toJson, orElse, get?_sorted, ok_bind, view, Json.sorted_optionalText,
    Json.optionalTextOf_optionalText, arranged]

theorem Reordered.sorted_toJson (h : x.Reordered y) : sorted x.toJson = sorted y.toJson := by
  rw [toJson, toJson, Json.sorted_obj, Json.sorted_obj]
  simp only [List.map_cons, View.sorted_ofOption_iff.mpr h.view,
    sorted_keyed_eq_of_perm h.filters, h.gap, h.globals, h.viewed, h.results]

theorem stableText_eq_iff (left : x.HasShortIntegers) (right : y.HasShortIntegers) :
    x.stableText = y.stableText ↔ x.Reordered y := by
  constructor
  · intro same
    -- both texts are read as the same data, and so as the same snapshot by name
    have read : some (sorted x.toJson) = some (sorted y.toJson) := by
      rw [← Json.read?_stable left.isReadable_toJson, ← Json.read?_stable right.isReadable_toJson]
      exact congrArg (fun text => Json.read? text.toList) same
    have arranged : x.arranged = y.arranged := by
      have restored := congrArg ofJson (Option.some.inj read)
      rw [ofJson_sorted, ofJson_sorted] at restored
      exact Except.ok.inj restored
    exact x.reordered_arranged.symm.trans (arranged ▸ y.reordered_arranged)
  · intro same
    exact congrArg (fun v => String.ofList v.compact) same.sorted_toJson

theorem droppedPart_eq_iff : Navigation.droppedPart x = Navigation.droppedPart y ↔
    Option.Rel View.Reordered x.view y.view ∧ x.gap = y.gap := by
  constructor
  · intro same
    have sorted := Json.sorted_eq_of_stable x.isExact_dropped y.isExact_dropped same
    have values := Json.values_eq_of_sorted_obj sorted rfl (by simp)
    simp only [List.map_cons, List.map_nil, List.cons.injEq] at values
    exact ⟨View.sorted_ofOption_iff.mp values.1, Json.sorted_optionalText_injective values.2.1⟩
  · rintro ⟨view, gap⟩
    rw [Navigation.droppedPart, Navigation.droppedPart, Json.stable, Json.stable, Json.sorted_obj,
      Json.sorted_obj]
    simp only [List.map_cons, View.sorted_ofOption_iff.mpr view, gap]

/-- A snapshot comes back from its text, but for the order of the entries of its mappings. So no
other snapshot has this text, and what is compared of truncated addresses tells views apart. -/
theorem restored_reordered (short : x.HasShortIntegers) :
    (∃ j y, Json.read? x.stableText.toList = some j ∧ ofJson j = .ok y ∧ y.Reordered x) ∧
      (∀ y : Snapshot, y.HasShortIntegers → (y.stableText = x.stableText ↔ y.Reordered x)) ∧
      ∀ y, Navigation.droppedPart y = Navigation.droppedPart x ↔
        Option.Rel View.Reordered y.view x.view ∧ y.gap = x.gap :=
  ⟨⟨_, _, Json.read?_stable short.isReadable_toJson, x.ofJson_sorted, x.reordered_arranged⟩,
    fun _ short' => stableText_eq_iff short' short, fun _ => droppedPart_eq_iff⟩

def unordered : Snapshot where
  view := some (.extended (.ofList [("word", ⟨"word", "Rosé \"🌹\"", true, .text⟩),
    ("lemma", ⟨"lemma", "a*", false, .combobox⟩)]) none true)
  filters := .ofList [("Œuvre", ⟨"Œuvre", .text, ["Les Fleurs", "du mal\n"]⟩),
    ("", ⟨"année", .range, []⟩)]
  gap := some "a\tb"
  globals := { GlobalSettings.initial with sampleSize := some (.float (.ofRatio false 25 2)) }
  viewed := some hits
  results := { ResultSettings.initial with groupBy := ["hit:word"], sort := some "hit:word" }

theorem restored_reordered_unordered :
    unordered.HasShortIntegers ∧
      ∃ j y, Json.read? unordered.stableText.toList = some j ∧ ofJson j = .ok y ∧
        y.Reordered unordered := by
  have short : unordered.HasShortIntegers := {
    ngram := nofun
    pageSize := by
      change (Numeral.decimal 50).length ≤ Numeral.maxDigits
      decide
    sampleSize := nofun
    sampleSeed := nofun
    wordsAroundHit := nofun
    page := by
      change (Numeral.decimal 0).length ≤ Numeral.maxDigits
      decide }
  exact ⟨short, (restored_reordered short).1⟩

end Snapshot

end Concordance
