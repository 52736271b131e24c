import Mathlib.Algebra.Group.Nat.Even
import Mathlib.Data.List.DropRight
import Concordance.Proofs.Pattern.Derivation.Condition

/-! Which values come back from their literals. Whether a backslash takes the next character with
it depends on how many backslashes stand before that character: the first of them takes the second,
the third takes the fourth, and only the last one of an odd run is left to take what follows. -/

namespace Concordance.Quoted

open Grammar
open Pattern (Terminal lexeme_string literal?_iff)

/-- How many backslashes a text ends with. -/
def trailing (cs : List Char) : ℕ := (cs.rtakeWhile (· == '\\')).length

/-- Every longest run of backslashes right before `stop` is of even length. `none` stands for the
end of the text. -/
def EvenBefore (stop : Option Char) (cs : List Char) : Prop :=
  ∀ before after, cs = before ++ after → after.head? = stop → Even (trailing before)

@[simp] theorem trailing_nil : trailing [] = 0 := rfl

@[simp] theorem trailing_backslash : trailing ['\\'] = 1 := rfl

theorem trailing_concat (cs : List Char) (c : Char) :
    trailing (cs ++ [c]) = if c = '\\' then trailing cs + 1 else 0 := by
  simp only [trailing, List.rtakeWhile_concat, beq_iff_eq]
  split <;> simp

theorem trailing_cons {c : Char} (cs : List Char) (h : c ≠ '\\') :
    trailing (c :: cs) = trailing cs := by
  induction cs using List.reverseRecOn with
  | nil => simpa [h] using trailing_concat [] c
  | append_singleton cs d ih => rw [← List.cons_append, trailing_concat, trailing_concat, ih]

/-- A backslash and the character after it leave the parity of all later runs as it is, also if
that character is a backslash. -/
theorem even_trailing_pair (c : Char) (cs : List Char) :
    Even (trailing ('\\' :: c :: cs)) ↔ Even (trailing cs) := by
  induction cs using List.reverseRecOn with
  | nil =>
    rw [show ['\\', c] = ['\\'] ++ [c] from rfl, trailing_concat]
    split
    · decide
    · rfl
  | append_singleton cs d ih =>
    rw [← List.cons_append, ← List.cons_append, trailing_concat, trailing_concat]
    split
    · rw [Nat.even_add_one, Nat.even_add_one, ih]
    · rfl

section Places

variable {stop : Option Char} {c : Char} {cs : List Char}

theorem places_nil {p : List Char → Prop} :
    (∀ before after, [] = before ++ after → after.head? = stop → p before) ↔
      (none = stop → p []) := by
  constructor
  · intro all
    exact all [] [] rfl
  · intro first before after split next
    obtain ⟨rfl, rfl⟩ := List.nil_eq_append_iff.mp split
    exact first next

theorem places_cons {p : List Char → Prop} :
    (∀ before after, c :: cs = before ++ after → after.head? = stop → p before) ↔
      (some c = stop → p []) ∧
        ∀ before after, cs = before ++ after → after.head? = stop → p (c :: before) := by
  constructor
  · intro all
    refine ⟨all [] (c :: cs) rfl, ?_⟩
    intro before after split
    exact all (c :: before) after (by rw [split, List.cons_append])
  · rintro ⟨first, others⟩ before after split next
    rcases List.cons_eq_append_iff.mp split with ⟨rfl, rfl⟩ | ⟨before, rfl, later⟩
    · exact first next
    · exact others before after later next

theorem evenBefore_nil : EvenBefore stop [] := by
  rw [EvenBefore, places_nil]
  exact fun _ => Even.zero

theorem evenBefore_backslash : EvenBefore stop ['\\'] ↔ none ≠ stop := by
  rw [EvenBefore, places_cons, places_nil]
  simp

theorem evenBefore_cons (h : c ≠ '\\') : EvenBefore stop (c :: cs) ↔ EvenBefore stop cs := by
  rw [EvenBefore, places_cons]
  simp [trailing_cons _ h, EvenBefore]

theorem evenBefore_pair :
    EvenBefore stop ('\\' :: c :: cs) ↔ some c ≠ stop ∧ EvenBefore stop cs := by
  rw [EvenBefore, places_cons, places_cons]
  simp [even_trailing_pair, EvenBefore]

end Places

theorem escapesQuote_iff (cs : List Char) :
    escapesQuote cs = false ↔ EvenBefore (some '"') cs := by
  fun_induction escapesQuote cs with
  | case1 => simp [evenBefore_nil]
  | case2 c cs ih => simp [evenBefore_pair, ih]
  | case3 c cs single ih =>
    by_cases escape : c = '\\'
    · obtain rfl := eq_nil_of_single escape single
      subst escape
      simp [evenBefore_backslash, escapesQuote]
    · rw [evenBefore_cons escape, ih]

theorem isWhole_iff (cs : List Char) :
    isWhole cs ↔ EvenBefore (some '\n') cs ∧ EvenBefore none cs := by
  fun_induction isWhole cs with
  | case1 => simp [evenBefore_nil]
  | case2 c cs ih => simp [evenBefore_pair, ih, and_assoc]
  | case3 c cs single ih =>
    by_cases escape : c = '\\'
    · obtain rfl := eq_nil_of_single escape single
      subst escape
      simp [evenBefore_backslash]
    · simp [evenBefore_cons escape, ih, escape]

theorem unquote?_quote (v : List Char) :
    unquote? (quote v) = some (unescape '"' (protect v)) := by
  simp [unquote?, quote_eq]

theorem lexeme_quote_iff (v : List Char) :
    Lexeme Terminal.string.language (quote v) (quote v) [] ↔ isRegular v := by
  rw [lexeme_string, ← inside?_protect_iff v []]
  constructor
  · rintro ⟨q, t, u, -, text, read, whole⟩
    simp only [quote_eq, List.cons_append, List.cons.injEq] at text whole
    obtain ⟨rfl, rfl⟩ := text
    obtain rfl := List.append_cancel_right whole.2
    exact read
  · intro read
    exact ⟨'"', protect v, protect v ++ ['"'], .inl rfl, rfl, read, rfl⟩

/-- Quoting is undone exactly if no run of backslashes before a quote is odd. If in addition none is
odd before a line feed or at the end, and only then, the quoted text is one literal, and is read as
that value. -/
theorem quote_restored_iff (v : List Char) :
    (unquote? (quote v) = some v ↔ EvenBefore (some '"') v) ∧
      (Lexeme Terminal.string.language (quote v) (quote v) [] ↔
        EvenBefore (some '"') v ∧ EvenBefore (some '\n') v ∧ EvenBefore none v) ∧
      (literal? (quote v) = some (v, []) ↔
        Lexeme Terminal.string.language (quote v) (quote v) []) := by
  have undone : unquote? (quote v) = some v ↔ EvenBefore (some '"') v := by
    rw [unquote?_quote, Option.some.injEq, unescape_protect_iff, escapesQuote_iff]
  have token : Lexeme Terminal.string.language (quote v) (quote v) [] ↔
      EvenBefore (some '"') v ∧ EvenBefore (some '\n') v ∧ EvenBefore none v := by
    rw [lexeme_quote_iff, isRegular_eq, Bool.and_eq_true, Bool.not_eq_true', isWhole_iff,
      escapesQuote_iff, and_comm]
  refine ⟨undone, token, ?_⟩
  constructor
  · intro read
    obtain ⟨s, lexeme, -⟩ := literal?_iff.mp read
    obtain rfl : quote v = s := by simpa using lexeme.text
    exact lexeme
  · intro lexeme
    simpa using literal?_quote [] ((lexeme_quote_iff v).mp lexeme)

example : unquote? (quote ['\\', '"']) = some ['\\', '\\', '"'] := rfl

end Concordance.Quoted
