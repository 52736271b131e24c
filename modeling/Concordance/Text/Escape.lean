/-! Escaping: a backslash before every character of a class, and taking it away again. -/

namespace Concordance.Text

def escape (p : Char → Bool) : List Char → List Char
  | [] => []
  | c :: cs => if p c then '\\' :: c :: escape p cs else c :: escape p cs

/-- A backslash takes the next character with it; before one that is not of the class it stays. -/
def unescape (p : Char → Bool) : List Char → List Char
  | [] => []
  | '\\' :: c :: cs => if p c then c :: unescape p cs else '\\' :: c :: unescape p cs
  | c :: cs => c :: unescape p cs

theorem unescape_cons {c : Char} (p : Char → Bool) (cs : List Char) (h : c ≠ '\\') :
    unescape p (c :: cs) = c :: unescape p cs := by
  rw [unescape]
  rintro _ _ rfl
  exact absurd rfl h

theorem unescape_escape {p q : Char → Bool} (hp : p '\\') (hpq : ∀ c, p c → q c)
    (cs : List Char) : unescape q (escape p cs) = cs := by
  induction cs with
  | nil => rfl
  | cons c cs ih =>
    by_cases hc : p c
    · simp [escape, unescape, hc, hpq c hc, ih]
    · have hne : c ≠ '\\' := fun h => hc (h ▸ hp)
      simp [escape, hc, unescape_cons q _ hne, ih]

end Concordance.Text
