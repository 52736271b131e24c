import Concordance.Keyed
import Concordance.Json.Basic
import Concordance.Json.Printer
import Concordance.Snapshot.Basic

/-! Snapshots in the data exchange format. -/

namespace Concordance

namespace Json

def optionalText (s : Option String) : Json := ofOption .str s

def ofNumber : Number → Json
  | .int i => .int i
  | .float x => .float x

end Json

inductive Malformed
  | missing (member : String)
  | unknownView (type : String)
  | unknownKind (name : String)
  | incomplete (member : String)
  | unexpected (member : String)
  | mistyped
  deriving DecidableEq, Repr

namespace Form

abbrev Result := Except Malformed

def members : Json → Result (List (String × Json))
  | .obj ms => .ok ms
  | _ => .error .mistyped

def required (error : String → Malformed) (j : Json) (member : String) : Result Json :=
  match j.get? member with
  | some v => .ok v
  | none => .error (error member)

def textOf : Json → Result String
  | .str s => .ok s
  | _ => .error .mistyped

def optionalTextOf : Json → Result (Option String)
  | .null => .ok none
  | .str s => .ok (some s)
  | _ => .error .mistyped

def intOf : Json → Result Int
  | .int i => .ok i
  | _ => .error .mistyped

def optionalIntOf : Json → Result (Option Int)
  | .null => .ok none
  | .int i => .ok (some i)
  | _ => .error .mistyped

def optionalNumberOf : Json → Result (Option Number)
  | .null => .ok none
  | .int i => .ok (some (.int i))
  | .float x => .ok (some (.float x))
  | _ => .error .mistyped

def textsOf : Json → Result (List String)
  | .arr items => items.mapM textOf
  | _ => .error .mistyped

def only (allowed : List String) (j : Json) : Result Unit := do
  let ms ← members j
  match ms.find? fun m => !allowed.contains m.1 with
  | some m => .error (.unexpected m.1)
  | none => .ok ()

def orElse {α : Type} (j : Json) (member : String) (read : Json → Result α) (default : α) :
    Result α :=
  match j.get? member with
  | some v => read v
  | none => .ok default

def keyed {α : Type} (read : Json → Result α) (j : Json) : Result (Keyed α) := do
  let ms ← members j
  let entries ← ms.mapM fun m => do
    let v ← read m.2
    pure (m.1, v)
  .ok (.ofList entries)

end Form

open Form

namespace AnnotationValue

def toJson (v : AnnotationValue) : Json :=
  .obj [("id", .str v.id), ("value", .str v.value), ("case_sensitive", .bool v.caseSensitive),
    ("kind", .str v.kind.name)]

def ofJson (j : Json) : Result AnnotationValue := do
  let id ← required .missing j "id" >>= textOf
  let value ← orElse j "value" textOf ""
  let kind ← orElse j "kind" textOf "text"
  match AnnotationKind.ofName? kind with
  | some kind => .ok ⟨id, value, ((j.get? "case_sensitive").map Json.truthy).getD false, kind⟩
  | none => .error (.unknownKind kind)

end AnnotationValue

namespace FilterValue

def toJson (f : FilterValue) : Json :=
  .obj [("id", .str f.id), ("ui_kind", .str f.kind.name), ("values", .strings f.values)]

def ofJson (j : Json) : Result FilterValue := do
  let id ← required .missing j "id" >>= textOf
  let kind ← required .missing j "ui_kind" >>= textOf
  match FieldKind.ofName? kind with
  | some kind =>
    let values ← required .missing j "values" >>= textsOf
    .ok ⟨id, kind, values⟩
  | none => .error (.unknownKind kind)

end FilterValue

namespace Slot

def toJson (s : Slot) : Json :=
  .obj [("id", .str s.id), ("value", .str s.value), ("case_sensitive", .bool s.caseSensitive)]

def ofJson (j : Json) : Result Slot := do
  only ["id", "value", "case_sensitive"] j
  let id ← required .incomplete j "id" >>= textOf
  let value ← orElse j "value" textOf ""
  .ok ⟨id, value, ((j.get? "case_sensitive").map Json.truthy).getD false⟩

end Slot

namespace View

def toJson (v : View) : Json :=
  .obj (("type", .str v.mode.name) :: match v with
    | simple value => [("value", value.toJson)]
    | extended values within splitBatch =>
      [("annotation_values", .obj (values.map AnnotationValue.toJson).entries),
       ("within", .optionalText within), ("split_batch", .bool splitBatch)]
    | advanced pattern | expert pattern => [("pattern", .optionalText pattern)]
    | frequency id => [("annotation_id", .str id)]
    | ngram group size maxSize slots =>
      [("group_annotation_id", .str group), ("size", .int size), ("max_size", .int maxSize),
       ("tokens", .arr (slots.map Slot.toJson))]
    | corpora groupBy displayMode =>
      [("group_by", .optionalText groupBy), ("group_display_mode", .optionalText displayMode)])

def patternOf (j : Json) : Result (Option String) := do
  only ["type", "pattern"] j
  orElse j "pattern" optionalTextOf none

def ofMode (j : Json) : Mode → Result View
  | .search .simple => do
    let value ← required .missing j "value" >>= AnnotationValue.ofJson
    .ok (simple value)
  | .search .extended => do
    let values ← orElse j "annotation_values" (keyed AnnotationValue.ofJson) ∅
    let within ← orElse j "within" optionalTextOf none
    .ok (extended values within (((j.get? "split_batch").map Json.truthy).getD false))
  | .search .advanced => (patternOf j).map advanced
  | .search .expert => (patternOf j).map expert
  | .explore .frequency => do
    only ["type", "annotation_id"] j
    let id ← required .incomplete j "annotation_id" >>= textOf
    .ok (frequency id)
  | .explore .ngram => do
    let slots ← orElse j "tokens" (fun
      | .arr items => items.mapM Slot.ofJson
      | _ => .error .mistyped) []
    only ["type", "group_annotation_id", "size", "max_size", "tokens"] j
    let group ← required .incomplete j "group_annotation_id" >>= textOf
    let size ← orElse j "size" intOf 3
    let maxSize ← orElse j "max_size" intOf 5
    .ok (ngram group size maxSize slots)
  | .explore .corpora => do
    only ["type", "group_by", "group_display_mode"] j
    let groupBy ← orElse j "group_by" optionalTextOf none
    let displayMode ← orElse j "group_display_mode" optionalTextOf none
    .ok (corpora groupBy displayMode)

def modeOf? (name : String) : Option Mode :=
  match SearchMode.ofName? name with
  | some m => some (.search m)
  | none => (ExploreMode.ofName? name).map .explore

/-- Null and the object without members are no view. -/
def ofJson (j : Json) : Result (Option View) :=
  if !j.truthy then .ok none
  else do
    let type ← required .missing j "type" >>= textOf
    match modeOf? type with
    | some m => (ofMode j m).map some
    | none => .error (.unknownView type)

end View

namespace GlobalSettings

def toJson (g : GlobalSettings) : Json :=
  .obj [("page_size", .int g.pageSize), ("sample_mode", .str g.sampleMode),
    ("sample_size", .ofOption .ofNumber g.sampleSize), ("sample_seed", .ofOption .int g.sampleSeed),
    ("words_around_hit", .ofOption .int g.wordsAroundHit)]

def ofJson (j : Json) : Result GlobalSettings := do
  only ["page_size", "sample_mode", "sample_size", "sample_seed", "words_around_hit"] j
  let pageSize ← orElse j "page_size" intOf defaultPageSize
  let sampleMode ← orElse j "sample_mode" textOf SampleMode.percentage
  let sampleSize ← orElse j "sample_size" optionalNumberOf none
  let sampleSeed ← orElse j "sample_seed" optionalIntOf none
  let wordsAroundHit ← orElse j "words_around_hit" optionalIntOf none
  .ok ⟨pageSize, sampleMode, sampleSize, sampleSeed, wordsAroundHit⟩

end GlobalSettings

namespace ResultSettings

def toJson (r : ResultSettings) : Json :=
  .obj [("group_by", .strings r.groupBy), ("group_by_advanced", .strings r.contextKeys),
    ("case_sensitive", .bool r.caseSensitive), ("sort", .optionalText r.sort),
    ("view_group", .optionalText r.viewGroup), ("page", .int r.page),
    ("group_display_mode", .optionalText r.displayMode)]

def keysOf (j : Json) (member : String) : Result (List String) :=
  match j.get? member with
  | some v => if v.truthy then textsOf v else .ok []
  | none => .ok []

def ofJson (j : Json) : Result ResultSettings := do
  only ["group_by", "group_by_advanced", "case_sensitive", "sort", "view_group", "page",
    "group_display_mode"] j
  let groupBy ← keysOf j "group_by"
  let contextKeys ← keysOf j "group_by_advanced"
  let sort ← orElse j "sort" optionalTextOf none
  let viewGroup ← orElse j "view_group" optionalTextOf none
  let page ← orElse j "page" intOf 0
  let displayMode ← orElse j "group_display_mode" optionalTextOf none
  let caseSensitive := ((j.get? "case_sensitive").map Json.truthy).getD false
  .ok ⟨groupBy, contextKeys, caseSensitive, sort, viewGroup, page, displayMode⟩

end ResultSettings

namespace Snapshot

def toJson (s : Snapshot) : Json :=
  .obj [("view", .ofOption View.toJson s.view),
    ("filters", .obj (s.filters.map FilterValue.toJson).entries),
    ("gap", .optionalText s.gap), ("global_settings", s.globals.toJson),
    ("viewed_results", .optionalText s.viewed), ("results", s.results.toJson)]

def ofJson (j : Json) : Result Snapshot := do
  let view ← orElse j "view" View.ofJson none
  let filters ← keyed FilterValue.ofJson (j.objectAt "filters")
  let gap ← orElse j "gap" optionalTextOf none
  let globals ← GlobalSettings.ofJson (j.objectAt "global_settings")
  let viewed ← orElse j "viewed_results" optionalTextOf none
  let results ← ResultSettings.ofJson (j.objectAt "results")
  .ok ⟨view, filters, gap, globals, viewed, results⟩

def stableText (s : Snapshot) : String := s.toJson.stable

end Snapshot

end Concordance
