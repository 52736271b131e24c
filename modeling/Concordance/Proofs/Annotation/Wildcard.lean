import Mathlib.Data.List.Infix
import Concordance.Annotation.Case
import Concordance.Annotation.Wildcard
import Concordance.Proofs.Text.Quoted
import Concordance.Proofs.Text.Words

/-! Words with wildcards and escaped texts: what their regular expressions look like, and what
reads back from them. -/

namespace Concordance

open Text (isWord isBlank)
open Quoted (isRegular)

theorem Quoted.isRegular_cons {c : Char} (cs : List Char) (h : c ≠ '\\') :
    isRegular (c :: cs) = isRegular cs := by
  rw [isRegular]
  · simp [h]
  · intro _ _ same
    exact absurd same h

theorem CaseMark.isMarked_of_head {cs : List Char} (head : cs.head? ≠ some '(') :
    isMarked cs = false := by
  cases cs with
  | nil => rfl
  | cons c cs =>
    have other : c ≠ '(' := fun same => head (congrArg some same)
    simp [isMarked, strip?, written, understood, List.isPrefixOf?, Ne.symm other]

theorem CaseMark.isMarked_mark (regex : List Char) : isMarked (mark true regex) = true := rfl

theorem CaseMark.isRegular_mark (sensitive : Bool) (regex : List Char) :
    isRegular (mark sensitive regex) = isRegular regex := by
  cases sensitive <;> rfl

namespace Regex

theorem not_isMeta {c : Char} (h : isMeta c = false) : c ≠ '\\' ∧ c ≠ '(' := by
  constructor <;> (intro same; subst same; exact absurd h (by decide))

theorem isMeta_plain {c : Char} (h : isMeta c) : c ≠ '"' ∧ c ≠ '\n' := by
  constructor <;> (intro same; subst same; exact absurd h (by decide))

theorem unescape_escape (cs : List Char) : unescape (escape cs) = cs := by
  refine Text.unescape_escape rfl ?_ cs
  intro c special
  exact bne_iff_ne.mpr (isMeta_plain special).2

theorem isRegular_escape (cs : List Char) : isRegular (escape cs) := by
  induction cs with
  | nil => rfl
  | cons c cs ih =>
    rw [escape] at ih ⊢
    cases special : isMeta c with
    | true =>
      have plain := isMeta_plain special
      simpa [Text.escape, special, isRegular, plain] using ih
    | false =>
      simpa [Text.escape, special, Quoted.isRegular_cons _ (not_isMeta special).1] using ih

theorem isMarked_escape (cs : List Char) : CaseMark.isMarked (escape cs) = false := by
  apply CaseMark.isMarked_of_head
  cases cs with
  | nil => nofun
  | cons c cs =>
    cases special : isMeta c with
    | true => simp [escape, Text.escape, special]
    | false => simpa [escape, Text.escape, special] using (not_isMeta special).2

end Regex

namespace Wildcard

theorem toRegex_cons (c : Char) (cs : List Char) : toRegex (c :: cs) = unit c ++ toRegex cs :=
  List.flatMap_cons

theorem unit_cases (c : Char) :
    Regex.isSpecial c ∧ unit c = ['\\', c] ∨ c = '*' ∧ unit c = ['.', '*'] ∨
      c = '?' ∧ unit c = ['.'] ∨
      (Regex.isSpecial c = false ∧ c ≠ '*' ∧ c ≠ '?') ∧ unit c = [c] := by
  cases special : Regex.isSpecial c with
  | true => exact .inl ⟨rfl, by rw [unit, if_pos special]⟩
  | false =>
    by_cases star : c = '*'
    · subst star
      exact .inr (.inl ⟨rfl, rfl⟩)
    by_cases mark : c = '?'
    · subst mark
      exact .inr (.inr (.inl ⟨rfl, rfl⟩))
    · exact .inr (.inr (.inr ⟨⟨rfl, star, mark⟩, by simp [unit, special, star, mark]⟩))

theorem isSpecial_ne {c d : Char} (h : Regex.isSpecial c = false) (special : Regex.isSpecial d) :
    c ≠ d := by
  intro same
  subst same
  rw [h] at special
  exact absurd special Bool.false_ne_true

theorem isSpecial_plain {c : Char} (h : Regex.isSpecial c) : c ≠ '"' ∧ c ≠ '\n' ∧ c ≠ '*' := by
  refine ⟨?_, ?_, ?_⟩ <;> (intro same; subst same; exact absurd h (by decide))

/-- No regular expression of a word starts with a star, so a dot before it is no wildcard of its
own. -/
theorem head?_toRegex (word : List Char) :
    (toRegex word).head? ≠ some '*' ∧ (toRegex word).head? ≠ some '(' := by
  cases word with
  | nil => exact ⟨nofun, nofun⟩
  | cons c cs =>
    rw [toRegex_cons]
    rcases unit_cases c with ⟨-, text⟩ | ⟨-, text⟩ | ⟨-, text⟩ | ⟨⟨special, star, -⟩, text⟩
    · rw [text]
      constructor <;> simp
    · rw [text]
      constructor <;> simp
    · rw [text]
      constructor <;> simp
    · rw [text]
      exact ⟨fun head => star (Option.some.inj head),
        fun head => isSpecial_ne special (by decide) (Option.some.inj head)⟩

theorem ofRegex_dot {cs : List Char} (head : cs.head? ≠ some '*') :
    ofRegex ('.' :: cs) = '?' :: ofRegex cs := by
  rw [ofRegex]
  intro ds same
  subst same
  exact head rfl

theorem ofRegex_plain {c : Char} (cs : List Char) (h : Regex.isSpecial c = false) :
    ofRegex (c :: cs) = c :: ofRegex cs := by
  have backslash := isSpecial_ne h (d := '\\') (by decide)
  have dot := isSpecial_ne h (d := '.') (by decide)
  rw [ofRegex]
  · intro _ _ same
    exact absurd same backslash
  · intro _ same
    exact absurd same dot
  · exact fun same => dot same

theorem ofRegex_toRegex (word : List Char) : ofRegex (toRegex word) = word := by
  induction word with
  | nil => rfl
  | cons c cs ih =>
    rw [toRegex_cons]
    rcases unit_cases c with ⟨special, text⟩ | ⟨rfl, text⟩ | ⟨rfl, text⟩ | ⟨⟨special, -⟩, text⟩
    · rw [text, List.cons_append, List.cons_append, List.nil_append, ofRegex, if_pos special, ih]
    · rw [text, List.cons_append, List.cons_append, List.nil_append, ofRegex, ih]
    · rw [text, List.cons_append, List.nil_append, ofRegex_dot (head?_toRegex cs).1, ih]
    · rw [text, List.cons_append, List.nil_append, ofRegex_plain _ special, ih]

/-! ### The regular expressions of words -/

/-- Escaping first and putting in the wildcards one after the other gives the same: no step touches
what the steps before it have put in. -/
theorem toRegex_eq_replaced (word : List Char) : toRegex word =
    ((Text.escape Regex.isSpecial word).flatMap fun c =>
        if c = '*' then ['.', '*'] else [c]).flatMap
      fun c => if c = '?' then ['.'] else [c] := by
  induction word with
  | nil => rfl
  | cons c cs ih =>
    rw [toRegex_cons, ih]
    rcases unit_cases c with ⟨special, text⟩ | ⟨rfl, text⟩ | ⟨rfl, text⟩ | ⟨⟨special, plain⟩, text⟩
    · have wild : c ≠ '*' ∧ c ≠ '?' := ⟨(isSpecial_plain special).2.2, fun same => by
        rw [same] at special
        exact absurd special (by decide)⟩
      simp [text, Text.escape, special, wild]
    · rw [text]
      rfl
    · rw [text]
      rfl
    · simp [text, Text.escape, special, plain]

inductive IsPiece : List Char → Prop
  | escaped {c : Char} (special : Regex.isSpecial c) : IsPiece ['\\', c]
  | anyText : IsPiece ['.', '*']
  | anyCharacter : IsPiece ['.']
  | literal {c : Char} (ordinary : Regex.isSpecial c = false) (star : c ≠ '*') (mark : c ≠ '?') :
      IsPiece [c]

theorem isPiece_unit (c : Char) : IsPiece (unit c) := by
  rcases unit_cases c with ⟨special, text⟩ | ⟨-, text⟩ | ⟨-, text⟩ | ⟨⟨ordinary, star, mark⟩, text⟩
  · rw [text]
    exact .escaped special
  · rw [text]
    exact .anyText
  · rw [text]
    exact .anyCharacter
  · rw [text]
    exact .literal ordinary star mark

theorem exists_unit {piece : List Char} (h : IsPiece piece) : ∃ c, unit c = piece := by
  cases h with
  | @escaped c special => exact ⟨c, if_pos special⟩
  | anyText => exact ⟨'*', rfl⟩
  | anyCharacter => exact ⟨'?', rfl⟩
  | @literal c ordinary star mark => exact ⟨c, by simp [unit, ordinary, star, mark]⟩

theorem exists_toRegex_iff {regex : List Char} : (∃ word, toRegex word = regex) ↔
    ∃ pieces : List (List Char), (∀ piece ∈ pieces, IsPiece piece) ∧ regex = pieces.flatten := by
  constructor
  · rintro ⟨word, rfl⟩
    refine ⟨word.map unit, ?_, List.flatMap_def⟩
    intro piece member
    obtain ⟨c, -, rfl⟩ := List.mem_map.mp member
    exact isPiece_unit c
  · rintro ⟨pieces, all, rfl⟩
    induction pieces with
    | nil => exact ⟨[], rfl⟩
    | cons piece pieces ih =>
      obtain ⟨c, first⟩ := exists_unit (all piece List.mem_cons_self)
      obtain ⟨word, rest⟩ := ih fun p member => all p (List.mem_cons_of_mem piece member)
      exact ⟨c :: word, by rw [toRegex_cons, first, rest, List.flatten_cons]⟩

/-- Every word comes back from its regular expression. A regular expression comes back from the word
it is shown as just if it is made of pieces. -/
theorem toRegex_restored_iff : (∀ word, ofRegex (toRegex word) = word) ∧
    ∀ regex, toRegex (ofRegex regex) = regex ↔
      ∃ pieces : List (List Char), (∀ piece ∈ pieces, IsPiece piece) ∧ regex = pieces.flatten := by
  refine ⟨ofRegex_toRegex, fun regex => ?_⟩
  rw [← exists_toRegex_iff]
  constructor
  · exact fun restored => ⟨ofRegex regex, restored⟩
  · rintro ⟨word, rfl⟩
    rw [ofRegex_toRegex]

theorem isRegular_toRegex (word : List Char) : isRegular (toRegex word) := by
  induction word with
  | nil => rfl
  | cons c cs ih =>
    rw [toRegex_cons]
    rcases unit_cases c with ⟨special, text⟩ | ⟨-, text⟩ | ⟨-, text⟩ | ⟨⟨special, -⟩, text⟩
    · have plain := isSpecial_plain special
      simpa [text, isRegular, plain] using ih
    · simpa [text, isRegular] using ih
    · simpa [text, Quoted.isRegular_cons] using ih
    · have backslash := isSpecial_ne special (d := '\\') (by decide)
      simpa [text, Quoted.isRegular_cons _ backslash] using ih

theorem isMarked_toRegex (word : List Char) : CaseMark.isMarked (toRegex word) = false :=
  CaseMark.isMarked_of_head (head?_toRegex word).2

theorem isWord_ofRegex {regex : List Char} (h : isWord regex) : isWord (ofRegex regex) := by
  have filled : ∀ cs : List Char, cs ≠ [] → ofRegex cs ≠ [] := by
    intro cs given
    fun_cases ofRegex cs with
    | case1 => exact absurd rfl given
    | case2 c cs special => exact List.cons_ne_nil _ _
    | case3 c cs special => exact List.cons_ne_nil _ _
    | case4 cs => exact List.cons_ne_nil _ _
    | case5 cs other => exact List.cons_ne_nil _ _
    | case6 c cs other dotted dot => exact List.cons_ne_nil _ _
  have nonblank : ∀ cs : List Char, cs.all (!isBlank ·) → (ofRegex cs).all (!isBlank ·) := by
    intro cs given
    fun_induction ofRegex cs with
    | case1 => rfl
    | case2 c cs special ih =>
      simp only [List.all_cons, Bool.and_eq_true] at given ⊢
      exact ⟨given.2.1, ih given.2.2⟩
    | case3 c cs special ih =>
      simp only [List.all_cons, Bool.and_eq_true] at given ⊢
      exact ⟨given.1, given.2.1, ih given.2.2⟩
    | case4 cs ih =>
      simp only [List.all_cons, Bool.and_eq_true] at given ⊢
      exact ⟨given.2.1, ih given.2.2⟩
    | case5 cs other ih =>
      simp only [List.all_cons, Bool.and_eq_true] at given ⊢
      exact ⟨by decide, ih given.2⟩
    | case6 c cs other dotted dot ih =>
      simp only [List.all_cons, Bool.and_eq_true] at given ⊢
      exact ⟨given.1, ih given.2⟩
  simp only [isWord, Bool.and_eq_true, Bool.not_eq_true', List.isEmpty_eq_false_iff] at h ⊢
  exact ⟨filled regex h.1, nonblank regex h.2⟩

end Wildcard

end Concordance
