import Concordance.Proofs.Text.Pieces
import Concordance.Proofs.Url.Percent
import Concordance.Url.Query

/-! The query of an address gives back the parameters it was written with. -/

namespace Concordance.Url

def isQueryChar (c : Char) : Bool := isCoded c || c == '=' || c == '&'

variable (p : String × String) (ps : List (String × String))

theorem mem_pairText {c : Char} (member : c ∈ pairText p) : isCoded c ∨ c = '=' := by
  rw [pairText, List.mem_append, List.mem_cons] at member
  rcases member with name | rfl | value
  · exact .inl (isCoded_of_mem_encode name)
  · exact .inr rfl
  · exact .inl (isCoded_of_mem_encode value)

theorem isQueryChar_of_mem {c : Char} (member : c ∈ queryText ps) : isQueryChar c := by
  rcases Text.mem_joined member with rfl | ⟨text, text_mem, inside⟩
  · rfl
  · obtain ⟨p, -, rfl⟩ := List.mem_map.mp text_mem
    rcases mem_pairText p inside with coded | rfl
    · simp [isQueryChar, coded]
    · rfl

theorem not_mem_pairText : '&' ∉ pairText p := by
  intro member
  rcases mem_pairText p member with coded | same
  · exact absurd coded (by decide)
  · exact absurd same (by decide)

theorem not_mem_encode (cs : List Char) : '=' ∉ encode cs := fun member =>
  absurd (isCoded_of_mem_encode member) (by decide)

theorem pair?_pairText : pair? (pairText p) = some p := by
  have written : (pairText p).isEmpty = false := by
    rw [List.isEmpty_eq_false_iff, pairText]
    exact List.append_ne_nil_of_right_ne_nil _ (List.cons_ne_nil _ _)
  have split := Text.cut_append (encode p.2.toList) (not_mem_encode p.1.toList)
  simp only [pair?, written, Bool.false_eq_true, if_false]
  rw [pairText, split]
  simp [decodeForm_encode]

theorem pairs_queryText : pairs (queryText ps) = ps := by
  cases ps with
  | nil => rfl
  | cons q qs =>
    have cut : Text.pieces '&' (queryText (q :: qs)) = (q :: qs).map pairText := by
      refine Text.pieces_joined (List.cons_ne_nil _ _) fun text member => ?_
      obtain ⟨p, -, rfl⟩ := List.mem_map.mp member
      exact not_mem_pairText p
    have inverse : pair? ∘ pairText = some := funext pair?_pairText
    rw [pairs, cut, List.filterMap_map, inverse, List.filterMap_some]

theorem once_of_nodup (distinct : (ps.map (·.1)).Nodup) : once ps = ps := by
  apply List.filter_eq_self.mpr
  intro p member
  have once : (ps.map (·.1)).count p.1 = 1 := by
    rw [distinct.count, if_pos (List.mem_map_of_mem member)]
  rw [List.count_eq_countP, List.countP_map, List.countP_eq_length_filter] at once
  exact beq_iff_eq.mpr once

theorem value?_queryText (distinct : (ps.map (·.1)).Nodup) (name : String) :
    value? (pairs (queryText ps)) name = (ps.find? (·.1 = name)).map (·.2) := by
  rw [pairs_queryText, value?, once_of_nodup ps distinct]

end Concordance.Url
