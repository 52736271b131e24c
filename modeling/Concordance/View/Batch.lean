import Concordance.Snapshot.Parameters

/-! Batches: an extended view as one query for each alternative of its values. -/

namespace Concordance

def AnnotationValue.alternatives (v : AnnotationValue) : List AnnotationValue :=
  let parts := (Text.pieces '|' v.value.toList).map Text.trim
  (parts.filter (!·.isEmpty)).map fun part => { v with value := String.ofList part }

/-- One view for each alternative of each value; values of kind `pos` are not split. -/
def View.split : Option View → Except Unusable (List View)
  | some (.extended values within true) =>
    let active := values.values.filter fun v => v.isActive && v.kind != .pos
    .ok ((active.flatMap (·.alternatives)).map fun v =>
      .extended (Keyed.empty.insert v.id v) within false)
  | _ => .error .notSplittable

end Concordance
