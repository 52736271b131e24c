import Concordance.Json.Printer
import Concordance.Json.Reader
import Concordance.Proofs.Except

/-! Every string is read back from its text in plain ASCII, whatever follows the closing quote. -/

namespace Concordance.Json

theorem hexValue?_hexChar {n : Nat} (h : n < 16) : Numeral.hexValue? (hexChar n) = some n := by
  revert n
  decide

namespace Reader

theorem unit?_hex {n : Nat} (rest : List Char) (h : n < 0x10000) :
    unit? (hexChar (n / 4096 % 16) :: hexChar (n / 256 % 16) :: hexChar (n / 16 % 16) ::
      hexChar (n % 16) :: rest) = some (n, rest) := by
  have digit : ∀ m, Numeral.hexValue? (hexChar (m % 16)) = some (m % 16) := fun m =>
    hexValue?_hexChar (Nat.mod_lt m (by decide))
  have value : 16 * (16 * (16 * (n / 4096 % 16) + n / 256 % 16) + n / 16 % 16) + n % 16 = n := by
    omega
  simp [unit?, Numeral.ofHex?, Numeral.hexValueAux?, digit, value]

theorem ofUnit_single {n : Nat} (rest : List Char) (h : n < 0xD800 ∨ 0xDFFF < n) :
    ofUnit n rest = (Char.ofNat n, rest) := by
  have noHigh : Text.isHighSurrogate n = false := by
    simp only [Text.isHighSurrogate, Bool.and_eq_false_iff, decide_eq_false_iff_not]
    omega
  have noLow : Text.isLowSurrogate n = false := by
    simp only [Text.isLowSurrogate, Bool.and_eq_false_iff, decide_eq_false_iff_not]
    omega
  simp [ofUnit, noHigh, noLow]

theorem ofUnit_pair {n : Nat} (rest : List Char) (h : n < 0x100000) :
    ofUnit (0xD800 + n / 0x400) (unitText (0xDC00 + n % 0x400) ++ rest) =
      (Char.ofNat (0x10000 + n), rest) := by
  have high : Text.isHighSurrogate (0xD800 + n / 0x400) := by
    simp only [Text.isHighSurrogate, Bool.and_eq_true, decide_eq_true_eq]
    omega
  have low : Text.isLowSurrogate (0xDC00 + n % 0x400) := by
    simp only [Text.isLowSurrogate, Bool.and_eq_true, decide_eq_true_eq]
    omega
  have unit := unit?_hex (n := 0xDC00 + n % 0x400) rest (by omega)
  have value : 0x10000 + (0xD800 + n / 0x400 - 0xD800) * 0x400 + (0xDC00 + n % 0x400 - 0xDC00) =
      0x10000 + n := by
    omega
  simp only [ofUnit, high, if_true, unitText, List.cons_append, List.nil_append, unit, low,
    Text.ofSurrogates, value]

theorem stringBody_unit (n u : Nat) (rest : List Char) (h : u < 0x10000) :
    stringBody (n + 1) (unitText u ++ rest) =
      (stringBody n (ofUnit u rest).2).map fun (s, r) => ((ofUnit u rest).1 :: s, r) := by
  rw [unitText, List.cons_append, List.cons_append, stringBody]
  simp only [List.cons_append, List.nil_append, unit?_hex rest h, Option.bind_eq_bind,
    Option.bind_some]
  cases stringBody n (ofUnit u rest).2 <;> rfl

theorem stringBody_escape {e c : Char} (n : Nat) (rest : List Char)
    (simple : simpleEscape? e = some c) :
    stringBody (n + 1) ('\\' :: e :: rest) = (stringBody n rest).map fun (s, r) => (c :: s, r) := by
  have noUnit : e ≠ 'u' := fun same => nomatch same ▸ simple
  rw [stringBody]
  · simp only [simple, Option.bind_eq_bind, Option.bind_some]
    cases stringBody n rest <;> rfl
  · exact noUnit

theorem stringBody_plain {c : Char} (n : Nat) (rest : List Char) (noQuote : c ≠ '"')
    (noBackslash : c ≠ '\\') (visible : 0x20 ≤ c.toNat) :
    stringBody (n + 1) (c :: rest) = (stringBody n rest).map fun (s, r) => (c :: s, r) := by
  have control : ¬c.toNat < 0x20 := by omega
  rw [stringBody]
  · simp only [noQuote, noBackslash, control, or_self, if_false, Option.bind_eq_bind]
    cases stringBody n rest <;> rfl
  · intro _ same
    exact absurd same noBackslash
  · intro _ _ same
    exact absurd same noBackslash

theorem stringBody_escapeChar (n : Nat) (c : Char) (rest : List Char) :
    stringBody (n + 1) (escapeChar c ++ rest) =
      (stringBody n rest).map fun (s, r) => (c :: s, r) := by
  have valid : c.toNat < 0xD800 ∨ 0xDFFF < c.toNat ∧ c.toNat < 0x110000 := c.valid
  rw [escapeChar]
  iterate 7
    split
    · next same =>
      subst same
      exact stringBody_escape n rest rfl
  split
  · next noQuote noBackslash _ _ _ _ _ plain =>
    exact stringBody_plain n rest noQuote noBackslash plain.1
  split
  · next small =>
    rw [stringBody_unit n c.toNat rest small, ofUnit_single rest (by omega), Char.ofNat_toNat]
  · next large =>
    have whole : 0x10000 + (c.toNat - 0x10000) = c.toNat := by omega
    rw [List.append_assoc, stringBody_unit n _ _ (by omega), ofUnit_pair rest (by omega), whole,
      Char.ofNat_toNat]

theorem stringBody_flatMap (cs rest : List Char) (n : Nat) (fuel : cs.length < n) :
    stringBody n (cs.flatMap escapeChar ++ '"' :: rest) = some (cs, rest) := by
  induction cs generalizing n with
  | nil =>
    obtain ⟨m, rfl⟩ : ∃ m, n = m + 1 := ⟨n - 1, by omega⟩
    rfl
  | cons c cs ih =>
    obtain ⟨m, rfl⟩ : ∃ m, n = m + 1 := ⟨n - 1, by omega⟩
    rw [List.flatMap_cons, List.append_assoc, stringBody_escapeChar,
      ih m (by simp only [List.length_cons] at fuel; omega)]
    rfl

theorem escapeChar_ne_nil (c : Char) : escapeChar c ≠ [] := by
  rw [escapeChar]
  repeat' split
  all_goals exact List.cons_ne_nil _ _

theorem length_le_flatMap (cs : List Char) : cs.length ≤ (cs.flatMap escapeChar).length := by
  induction cs with
  | nil => exact Nat.le_refl 0
  | cons c cs ih =>
    have some_char := List.length_pos_iff.mpr (escapeChar_ne_nil c)
    rw [List.flatMap_cons, List.length_append, List.length_cons]
    omega

theorem stringBody_quoted (s : String) (rest : List Char) :
    stringBody (s.toList.flatMap escapeChar ++ '"' :: rest).length.succ
      (s.toList.flatMap escapeChar ++ '"' :: rest) = some (s.toList, rest) := by
  apply stringBody_flatMap s.toList rest _
  have long := length_le_flatMap s.toList
  rw [List.length_append]
  omega

theorem value_quoted (n levels : Nat) (s : String) (rest : List Char) :
    value (n + 1) levels (quoted s ++ rest) = .ok (.str s, rest) := by
  have read := stringBody_quoted s rest
  have shape : quoted s ++ rest = '"' :: (s.toList.flatMap escapeChar ++ '"' :: rest) := by
    simp [quoted]
  rw [shape, value]
  simp only [read, spelledRight, ok_bind, String.ofList_toList]

end Reader

end Concordance.Json
