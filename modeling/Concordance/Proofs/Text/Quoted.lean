import Concordance.Text.Quoted

/-! Quoting and reading a literal. Only texts whose backslashes do not disturb the quotes come back
as they were. -/

namespace Concordance.Quoted

/-- A text made of units: a character other than the backslash, or a backslash and a character
that is neither the quote nor a line feed. -/
def isRegular : List Char → Bool
  | [] => true
  | '\\' :: c :: cs => c != '"' && c != '\n' && isRegular cs
  | c :: cs => c != '\\' && isRegular cs

/-- A text of units in which a backslash may take the quote with it, but no line feed. -/
def isWhole : List Char → Bool
  | [] => true
  | '\\' :: c :: cs => c != '\n' && isWhole cs
  | c :: cs => c != '\\' && isWhole cs

/-- Somewhere a backslash takes the quote with it. -/
def escapesQuote : List Char → Bool
  | [] => false
  | '\\' :: c :: cs => c == '"' || escapesQuote cs
  | _ :: cs => escapesQuote cs

theorem isRegular_eq (cs : List Char) : isRegular cs = (isWhole cs && !escapesQuote cs) := by
  fun_induction isRegular cs with
  | case1 => rfl
  | case2 c cs ih =>
    rw [isWhole, escapesQuote, ih, bne, bne]
    cases c == '"' <;> cases c == '\n' <;> cases isWhole cs <;> rfl
  | case3 c cs single ih => rw [isWhole, escapesQuote, ih, Bool.and_assoc] <;> exact single

theorem eq_nil_of_single {c : Char} {cs : List Char} (escape : c = '\\')
    (single : ∀ d ds, c = '\\' → cs = d :: ds → False) : cs = [] := by
  cases cs with
  | nil => rfl
  | cons d ds => exact (single d ds escape rfl).elim

def protect (cs : List Char) : List Char := Text.escape (· == '"') cs

theorem quote_eq (cs : List Char) : quote cs = '"' :: protect cs ++ ['"'] := rfl

theorem protect_cons (c : Char) (cs : List Char) :
    protect (c :: cs) = if c = '"' then '\\' :: c :: protect cs else c :: protect cs := by
  by_cases quote : c = '"' <;> simp [protect, Text.escape, quote]

theorem inside?_cons {mark c : Char} (cs : List Char) (hm : c ≠ mark) (hb : c ≠ '\\') :
    inside? mark (c :: cs) = (inside? mark cs).map fun (s, r) => (c :: s, r) := by
  rw [inside?]
  · simp [hm, hb]
  · intro _ _ same
    exact absurd same hb

/-- Before a quote that a backslash takes with it a second backslash is written. The first one then
takes the second, and the quote closes the literal too early. -/
theorem inside?_protect_iff (cs rest : List Char) :
    inside? '"' (protect cs ++ '"' :: rest) = some (protect cs, rest) ↔ isRegular cs := by
  fun_induction isRegular cs with
  | case1 => simp [protect, Text.escape, inside?]
  | case2 c cs ih =>
    by_cases quote : c = '"'
    · subst quote
      simp [protect_cons, inside?]
    · by_cases feed : c = '\n'
      · subst feed
        simp [protect_cons, inside?]
      · simpa [protect_cons, quote, feed, inside?] using ih
  | case3 c cs single ih =>
    by_cases escape : c = '\\'
    · -- A last backslash takes the closing quote with it.
      obtain rfl := eq_nil_of_single escape single
      subst escape
      simp [protect, Text.escape, inside?]
    · by_cases quote : c = '"'
      · subst quote
        simpa [protect_cons, inside?] using ih
      · simpa [protect_cons, quote, inside?_cons _ quote escape, escape] using ih

theorem unescape_protect_iff (cs : List Char) :
    unescape '"' (protect cs) = cs ↔ escapesQuote cs = false := by
  fun_induction escapesQuote cs with
  | case1 => simp [protect, Text.escape, unescape, Text.unescape]
  | case2 c cs ih =>
    by_cases quote : c = '"'
    · subst quote
      simp [protect_cons, unescape, Text.unescape]
    · simpa [protect_cons, quote, unescape, Text.unescape] using ih
  | case3 c cs single ih =>
    by_cases escape : c = '\\'
    · obtain rfl := eq_nil_of_single escape single
      subst escape
      simp [protect, Text.escape, unescape, Text.unescape, escapesQuote]
    · by_cases quote : c = '"'
      · subst quote
        simpa [protect_cons, unescape, Text.unescape] using ih
      · simpa [protect_cons, quote, unescape, Text.unescape_cons _ _ escape] using ih

theorem literal?_quote (rest : List Char) {cs : List Char} (regular : isRegular cs) :
    literal? (quote cs ++ rest) = some (cs, rest) := by
  have read := (inside?_protect_iff cs rest).mpr regular
  rw [isRegular_eq, Bool.and_eq_true, Bool.not_eq_true'] at regular
  have undone := (unescape_protect_iff cs).mpr regular.2
  simp [quote_eq, literal?, read, undone]

theorem head?_quote (cs : List Char) : (quote cs).head? = some '"' := rfl

theorem isWhole_cons {c : Char} (cs : List Char) (h : c ≠ '\\') :
    isWhole (c :: cs) = isWhole cs := by
  rw [isWhole]
  · simp [h]
  · rintro _ _ rfl
    exact absurd rfl h

theorem isWhole_unescape {mark : Char} (quote : mark ≠ '\\') {cs s r : List Char}
    (read : inside? mark cs = some (s, r)) : isWhole (unescape mark s) := by
  fun_induction inside? mark cs generalizing s r with
  | case1 => exact absurd read nofun
  | case2 cs => exact absurd read nofun
  | case3 c cs feed ih =>
    simp only [Option.map_eq_some_iff, Prod.mk.injEq, Prod.exists] at read
    obtain ⟨inner, rest, read, rfl, rfl⟩ := read
    have whole : isWhole (Text.unescape (· == mark) inner) := ih read
    by_cases same : c = mark
    · subst same
      simp [unescape, Text.unescape, isWhole_cons _ quote, whole]
    · simp [unescape, Text.unescape, same, isWhole, feed, whole]
  | case4 cs =>
    cases read
    rfl
  | case5 cs ends single => exact absurd read nofun
  | case6 c cs single other plain ih =>
    simp only [Option.map_eq_some_iff, Prod.mk.injEq, Prod.exists] at read
    obtain ⟨inner, rest, read, rfl, rfl⟩ := read
    have whole : isWhole (Text.unescape (· == mark) inner) := ih read
    rw [unescape, Text.unescape_cons _ _ plain, isWhole_cons _ plain, whole]

theorem isWhole_of_literal? {cs v r : List Char} (read : literal? cs = some (v, r)) :
    isWhole v := by
  unfold literal? at read
  split at read
  · simp only [Option.map_eq_some_iff, Prod.mk.injEq, Prod.exists] at read
    obtain ⟨s, rest, read, rfl, rfl⟩ := read
    exact isWhole_unescape (by decide) read
  · simp only [Option.map_eq_some_iff, Prod.mk.injEq, Prod.exists] at read
    obtain ⟨s, rest, read, rfl, rfl⟩ := read
    exact isWhole_unescape (by decide) read
  · exact absurd read nofun

end Concordance.Quoted
