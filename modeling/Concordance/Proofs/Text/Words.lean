import Mathlib.Data.List.Induction
import Mathlib.Data.List.TakeWhile
import Concordance.Proofs.Text.Trim

/-! Words hold no blanks, and words with single spaces between them are read as they are. -/

namespace Concordance.Text

def isWord (w : List Char) : Bool := !w.isEmpty && w.all (!isBlank ·)

theorem isWord_cons {c : Char} {w : List Char} (h : isWord (c :: w)) :
    isBlank c = false ∧ (w = [] ∨ isWord w) := by
  simp only [isWord, List.isEmpty_cons, Bool.not_false, Bool.true_and, List.all_cons,
    Bool.and_eq_true, Bool.not_eq_true'] at h
  refine ⟨h.1, ?_⟩
  cases w with
  | nil => exact .inl rfl
  | cons d w => exact .inr (by simpa [isWord] using h.2)

theorem words_nonblank {c d : Char} (cs : List Char) (hc : isBlank c = false)
    (hd : isBlank d = false) :
    words (c :: d :: cs) = (words (d :: cs)).modifyHead (c :: ·) := by
  rw [words]
  simp [hc, hd]

theorem words_last {c d : Char} (cs : List Char) (hc : isBlank c = false) (hd : isBlank d) :
    words (c :: d :: cs) = [c] :: words (d :: cs) := by
  rw [words]
  simp [hc, hd]

theorem words_of_isWord {w : List Char} (h : isWord w) : words w = [w] := by
  induction w with
  | nil => simp [isWord] at h
  | cons c w ih =>
    obtain ⟨nonblank, rest⟩ := isWord_cons h
    rcases rest with rfl | word
    · simp [words, nonblank]
    · cases w with
      | nil => simp [isWord] at word
      | cons d w => rw [words_nonblank w nonblank (isWord_cons word).1, ih word]; rfl

theorem words_append {w : List Char} (cs : List Char) (h : isWord w) :
    words (w ++ ' ' :: cs) = w :: words cs := by
  have space : words (' ' :: cs) = words cs := words_blank ' ' cs (by decide)
  induction w with
  | nil => simp [isWord] at h
  | cons c w ih =>
    obtain ⟨nonblank, rest⟩ := isWord_cons h
    rcases rest with rfl | word
    · rw [List.cons_append, List.nil_append, words_last cs nonblank (by decide), space]
    · cases w with
      | nil => simp [isWord] at word
      | cons d w =>
        have next := (isWord_cons word).1
        rw [List.cons_append, List.cons_append, words_nonblank _ nonblank next, ← List.cons_append,
          ih word, List.modifyHead_cons]

theorem words_spaced {ws : List (List Char)} (h : ∀ w ∈ ws, isWord w) : words (spaced ws) = ws := by
  induction ws with
  | nil => rfl
  | cons w ws ih =>
    have word := h w List.mem_cons_self
    cases ws with
    | nil => exact words_of_isWord word
    | cons v ws =>
      rw [spaced, joined_cons ' ' w (List.cons_ne_nil v ws), words_append _ word]
      exact congrArg (w :: ·) (ih fun u member => h u (List.mem_cons_of_mem w member))

theorem isWord_of_mem_words {cs w : List Char} (member : w ∈ words cs) : isWord w := by
  induction cs generalizing w with
  | nil => simp [words] at member
  | cons c cs ih =>
    cases blank : isBlank c with
    | true =>
      rw [words_blank c cs blank] at member
      exact ih member
    | false =>
      have single : isWord [c] := by
        simp [isWord, blank]
      cases cs with
      | nil =>
        simp only [words, blank, Bool.false_eq_true, if_false, List.mem_singleton] at member
        exact member ▸ single
      | cons d cs =>
        cases next : isBlank d with
        | true =>
          rw [words_last cs blank next, List.mem_cons] at member
          rcases member with rfl | member
          · exact single
          · exact ih member
        | false =>
          rw [words_nonblank cs blank next] at member
          cases found : words (d :: cs) with
          | nil =>
            rw [found] at member
            exact absurd member List.not_mem_nil
          | cons v vs =>
            rw [found] at ih member
            rw [List.modifyHead_cons, List.mem_cons] at member
            rcases member with rfl | member
            · have later := (Bool.and_eq_true_iff.mp (ih List.mem_cons_self)).2
              rw [isWord, List.isEmpty_cons, List.all_cons, blank, later]
              rfl
            · exact ih (List.mem_cons_of_mem v member)

theorem solid_of_isWord {w : List Char} (h : isWord w) : Solid isBlank w := by
  simp only [isWord, Bool.and_eq_true, List.all_eq_true, Bool.not_eq_true'] at h
  constructor
  · intro c member
    exact h.2 c (List.mem_of_mem_head? member)
  · intro c member
    exact h.2 c (List.mem_of_getLast? member)

theorem isWord_ne_nil {w : List Char} (h : isWord w) : w ≠ [] := by
  simp only [isWord, Bool.and_eq_true, Bool.not_eq_true', List.isEmpty_eq_false_iff] at h
  exact h.1

theorem trim_spaced {ws : List (List Char)} (h : ∀ w ∈ ws, isWord w) :
    trim (spaced ws) = spaced ws :=
  (solid_spaced (fun w member => isWord_ne_nil (h w member))
    fun w member => solid_of_isWord (h w member)).trimBy

theorem spaced_ne_nil {ws : List (List Char)} (h : ∀ w ∈ ws, isWord w) (filled : ws ≠ []) :
    spaced ws ≠ [] := by
  intro empty
  have none : words (spaced ws) = [] := by
    rw [empty]
    rfl
  rw [words_spaced h] at none
  exact filled none

theorem trim_eq_nil_iff {cs : List Char} : trim cs = [] ↔ ∀ c ∈ cs, isBlank c := by
  rw [trim, trimBy, trimEnd, List.reverse_eq_nil_iff, List.dropWhile_eq_nil_iff]
  simp only [List.mem_reverse]
  constructor
  · intro inner c member
    rw [← List.takeWhile_append_dropWhile (p := isBlank) (l := cs), List.mem_append] at member
    rcases member with before | rest
    · exact List.mem_takeWhile_imp before
    · exact inner c rest
  · exact fun all c member => all c ((List.dropWhile_suffix isBlank).subset member)

theorem words_eq_nil_iff {cs : List Char} : words cs = [] ↔ ∀ c ∈ cs, isBlank c := by
  induction cs with
  | nil => simp [words]
  | cons c cs ih =>
    cases blank : isBlank c with
    | true => rw [words_blank c cs blank, ih, List.forall_mem_cons, blank, eq_self, true_and]
    | false =>
      have some_word : words (c :: cs) ≠ [] := by
        cases cs with
        | nil => simp [words, blank]
        | cons d cs =>
          cases next : isBlank d with
          | true => rw [words_last cs blank next]; exact List.cons_ne_nil _ _
          | false =>
            rw [words_nonblank cs blank next]
            intro empty
            have none := ih.mp (List.modifyHead_eq_nil_iff.mp empty) d List.mem_cons_self
            rw [next] at none
            cases none
      refine iff_of_false some_word fun all => ?_
      rw [all c List.mem_cons_self] at blank
      cases blank

theorem words_concat_blank (cs : List Char) {c : Char} (h : isBlank c) :
    words (cs ++ [c]) = words cs := by
  induction cs with
  | nil => exact words_blank c [] h
  | cons d cs ih =>
    cases blank : isBlank d with
    | true => rw [List.cons_append, words_blank d _ blank, words_blank d _ blank, ih]
    | false =>
      cases cs with
      | nil =>
        rw [List.cons_append, List.nil_append, words_last [] blank h, words_blank c [] h]
        simp [words, blank]
      | cons e cs =>
        rw [List.cons_append] at ih ⊢
        cases next : isBlank e with
        | true =>
          rw [List.cons_append, words_last _ blank next, words_last _ blank next, ih]
        | false =>
          rw [List.cons_append, words_nonblank _ blank next, words_nonblank _ blank next, ih]

theorem words_trim (cs : List Char) : words (trim cs) = words cs := by
  have start (cs : List Char) : words (cs.dropWhile isBlank) = words cs := by
    induction cs with
    | nil => rfl
    | cons c cs ih =>
      cases blank : isBlank c with
      | true => rw [List.dropWhile_cons_of_pos blank, ih, words_blank c cs blank]
      | false => rw [List.dropWhile_cons_of_neg (by simp [blank])]
  have stop (cs : List Char) : words (trimEnd isBlank cs) = words cs := by
    induction cs using List.reverseRecOn with
    | nil => rfl
    | append_singleton cs c ih =>
      cases blank : isBlank c with
      | true => rw [trimEnd_concat cs blank, ih, words_concat_blank cs blank]
      | false =>
        rw [trimEnd_of_last]
        intro d last
        rw [List.getLast?_concat, Option.mem_some_iff] at last
        exact last ▸ blank
  rw [trim, trimBy, stop, start]

theorem words_eq_nil_iff_trim {cs : List Char} : words cs = [] ↔ trim cs = [] := by
  rw [words_eq_nil_iff, trim_eq_nil_iff]

end Concordance.Text
