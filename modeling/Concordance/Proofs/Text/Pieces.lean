import Concordance.Text.Pieces

/-! A text without the separator is one piece, and joined pieces are cut apart again. -/

namespace Concordance.Text

variable {sep : Char} {cs : List Char}

theorem pieces_of_not_mem (free : sep ∉ cs) : pieces sep cs = [cs] := by
  induction cs with
  | nil => rfl
  | cons c cs ih =>
    rw [List.mem_cons, not_or] at free
    rw [pieces, if_neg (Ne.symm free.1), ih free.2, List.modifyHead_cons]

theorem pieces_append (left right : List Char) :
    pieces sep (left ++ sep :: right) = pieces sep left ++ pieces sep right := by
  induction left with
  | nil => simp [pieces]
  | cons c left ih =>
    by_cases h : c = sep
    · simp [pieces, h, ih]
    · obtain ⟨p, ps, found⟩ := List.exists_cons_of_ne_nil (pieces_ne_nil sep left)
      simp [pieces, h, ih, found]

theorem not_mem_of_mem_pieces {p : List Char} (member : p ∈ pieces sep cs) : sep ∉ p := by
  induction cs generalizing p with
  | nil =>
    rw [List.mem_singleton.mp member]
    exact List.not_mem_nil
  | cons c cs ih =>
    by_cases here : c = sep
    · rw [pieces, if_pos here, List.mem_cons] at member
      rcases member with rfl | member
      · exact List.not_mem_nil
      · exact ih member
    · obtain ⟨q, qs, found⟩ := List.exists_cons_of_ne_nil (pieces_ne_nil sep cs)
      rw [pieces, if_neg here, found, List.modifyHead_cons, List.mem_cons] at member
      rw [found] at ih
      rcases member with rfl | member
      · rw [List.mem_cons, not_or]
        exact ⟨Ne.symm here, ih List.mem_cons_self⟩
      · exact ih (List.mem_cons_of_mem q member)

theorem pieces_joined {ps : List (List Char)} (some_piece : ps ≠ []) (free : ∀ p ∈ ps, sep ∉ p) :
    pieces sep (joined sep ps) = ps := by
  induction ps with
  | nil => exact absurd rfl some_piece
  | cons p ps ih =>
    have first := pieces_of_not_mem (free p List.mem_cons_self)
    cases ps with
    | nil => exact first
    | cons q ps =>
      rw [joined_cons sep p (List.cons_ne_nil q ps), pieces_append, first,
        ih (List.cons_ne_nil q ps) fun r member => free r (List.mem_cons_of_mem p member)]
      rfl

theorem joined_ne_nil {p : List Char} (ps : List (List Char)) (h : p ≠ []) :
    joined sep (p :: ps) ≠ [] := by
  cases ps with
  | nil => exact h
  | cons q ps => exact List.append_ne_nil_of_left_ne_nil h _

theorem length_le_joined (sep : Char) {ps : List (List Char)} (named : ∀ p ∈ ps, p ≠ []) :
    ps.length ≤ (joined sep ps).length := by
  induction ps with
  | nil => exact Nat.zero_le _
  | cons p ps ih =>
    have some_char := List.length_pos_iff.mpr (named p List.mem_cons_self)
    cases ps with
    | nil => exact some_char
    | cons q ps =>
      have later := ih fun r member => named r (List.mem_cons_of_mem p member)
      rw [joined_cons sep p (List.cons_ne_nil q ps), List.length_append]
      simp only [List.length_cons] at later ⊢
      omega

theorem cut_of_not_mem (free : sep ∉ cs) : cut sep cs = (cs, none) := by
  induction cs with
  | nil => rfl
  | cons c cs ih =>
    rw [List.mem_cons, not_or] at free
    rw [cut, if_neg (Ne.symm free.1), ih free.2]

theorem cut_append (right : List Char) (free : sep ∉ cs) :
    cut sep (cs ++ sep :: right) = (cs, some right) := by
  induction cs with
  | nil => simp [cut]
  | cons c cs ih =>
    rw [List.mem_cons, not_or] at free
    rw [List.cons_append, cut, if_neg (Ne.symm free.1), ih free.2]

theorem mem_joined {ps : List (List Char)} {c : Char} (member : c ∈ joined sep ps) :
    c = sep ∨ ∃ p ∈ ps, c ∈ p := by
  induction ps with
  | nil => exact absurd member List.not_mem_nil
  | cons p ps ih =>
    cases ps with
    | nil => exact .inr ⟨p, List.mem_singleton_self p, member⟩
    | cons q ps =>
      rw [joined_cons sep p (List.cons_ne_nil q ps), List.mem_append, List.mem_cons] at member
      rcases member with inside | rfl | later
      · exact .inr ⟨p, List.mem_cons_self, inside⟩
      · exact .inl rfl
      · rcases ih later with same | ⟨r, r_mem, inside⟩
        · exact .inl same
        · exact .inr ⟨r, List.mem_cons_of_mem p r_mem, inside⟩

theorem mem_joined_of_mem {ps : List (List Char)} {p : List Char} {c : Char} (piece : p ∈ ps)
    (member : c ∈ p) : c ∈ joined sep ps := by
  induction ps with
  | nil => cases piece
  | cons q ps ih =>
    cases ps with
    | nil =>
      rw [List.mem_singleton.mp piece] at member
      exact member
    | cons r ps =>
      rw [joined_cons sep q (List.cons_ne_nil r ps), List.mem_append, List.mem_cons]
      rcases List.mem_cons.mp piece with rfl | later
      · exact .inl member
      · exact .inr (.inr (ih later))

end Concordance.Text
