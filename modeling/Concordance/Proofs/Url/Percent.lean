import Concordance.Url.Percent
import Concordance.Proofs.Text.Skip
import Concordance.Proofs.Text.Utf8

/-! Percent coding loses no text. -/

namespace Concordance.Url

theorem hexValue?_hexChar {n : Nat} (h : n < 16) : Numeral.hexValue? (hexChar n) = some n := by
  revert n
  decide

theorem hexChar_ne_plus {n : Nat} (h : n < 16) : hexChar n ≠ '+' := by
  revert n
  decide

theorem units_cons {c : Char} (cs : List Char) (h : c ≠ '%') :
    units (c :: cs) = (if c.toNat < 0x80 then .byte c.toNat else .char c) :: units cs := by
  rw [units]
  intro _ _ _ same
  exact absurd same h

theorem units_encodeByte {n : Nat} (rest : List Char) (h : n < 256) :
    units (encodeByte n ++ rest) = .byte n :: units rest := by
  have whole : 16 * (n / 16) + n % 16 = n := by omega
  simp [encodeByte, units, hexValue?_hexChar (show n / 16 < 16 by omega),
    hexValue?_hexChar (show n % 16 < 16 by omega), whole]

theorem plusToSpace_encodeByte {n : Nat} (h : n < 256) :
    plusToSpace (encodeByte n) = encodeByte n := by
  simp [plusToSpace, encodeByte, hexChar_ne_plus (show n / 16 < 16 by omega),
    hexChar_ne_plus (show n % 16 < 16 by omega)]

theorem plusToSpace_append (cs ds : List Char) :
    plusToSpace (cs ++ ds) = plusToSpace cs ++ plusToSpace ds :=
  List.map_append

theorem units_encodeBytes {bytes : List Nat} (rest : List Char) (small : ∀ n ∈ bytes, n < 256) :
    units (plusToSpace (bytes.flatMap encodeByte) ++ rest) = bytes.map .byte ++ units rest := by
  induction bytes with
  | nil => rfl
  | cons n bytes ih =>
    have first := small n List.mem_cons_self
    have later := ih fun m member => small m (List.mem_cons_of_mem n member)
    rw [List.flatMap_cons, plusToSpace_append, plusToSpace_encodeByte first, List.append_assoc,
      units_encodeByte _ first, later]
    rfl

theorem utf8_small (c : Char) : ∀ n ∈ Text.utf8 c, n < 256 := by
  have valid := Text.toNat_valid c
  intro n member
  simp only [Text.utf8] at member
  split at member
  · simp only [List.mem_singleton] at member
    omega
  split at member
  · simp only [List.mem_cons, List.not_mem_nil, or_false] at member
    omega
  split at member <;>
  · simp only [List.mem_cons, List.not_mem_nil, or_false] at member
    omega

theorem utf8_of_ascii {c : Char} (h : c.toNat < 0x80) : Text.utf8 c = [c.toNat] := by
  simp [Text.utf8, h]

theorem isUnreserved_ascii {c : Char} (h : isUnreserved c) :
    c.toNat < 0x80 ∧ c ≠ '+' ∧ c ≠ '%' ∧ c ≠ ' ' := by
  simp only [isUnreserved, Bool.or_eq_true, beq_iff_eq] at h
  refine ⟨?_, ?_, ?_, ?_⟩
  · rcases h with (((letter | rfl) | rfl) | rfl) | rfl
    · have bounds := Text.bounds_of_isAlphanum letter
      omega
    all_goals decide
  all_goals
    intro same
    subst same
    revert h
    decide

theorem units_encodeChar (c : Char) (rest : List Char) :
    units (plusToSpace (encodeChar c) ++ rest) = (Text.utf8 c).map .byte ++ units rest := by
  by_cases plain : isUnreserved c
  · obtain ⟨ascii, noPlus, noPercent, -⟩ := isUnreserved_ascii plain
    simp [encodeChar, plain, plusToSpace, noPlus, units_cons rest noPercent, utf8_of_ascii ascii,
      ascii]
  by_cases blank : c = ' '
  · subst blank
    simp [encodeChar, isUnreserved, plusToSpace, units_cons, Text.utf8]
  · simp only [encodeChar, plain, blank, if_false, Bool.false_eq_true]
    exact units_encodeBytes rest (utf8_small c)

theorem decodeUtf8_units_encode (cs rest : List Char) :
    Text.decodeUtf8 (units (plusToSpace (encode cs) ++ rest)) =
      cs ++ Text.decodeUtf8 (units rest) := by
  induction cs with
  | nil => rfl
  | cons c cs ih =>
    rw [encode, List.flatMap_cons, plusToSpace_append, List.append_assoc, units_encodeChar,
      Text.decodeUtf8_utf8]
    exact congrArg (c :: ·) ih

theorem decodeForm_encode (cs : List Char) : decodeForm (encode cs) = cs := by
  have h := decodeUtf8_units_encode cs []
  simpa [units, Text.decodeUtf8, decodeForm, decode] using h

theorem decode_of_isUnreserved {cs : List Char} (plain : ∀ c ∈ cs, isUnreserved c) :
    decode cs = cs := by
  induction cs with
  | nil => rfl
  | cons c cs ih =>
    obtain ⟨ascii, -, noPercent, -⟩ := isUnreserved_ascii (plain c List.mem_cons_self)
    have later := ih fun d member => plain d (List.mem_cons_of_mem c member)
    rw [decode, units_cons cs noPercent, if_pos ascii, Text.decodeUtf8, if_pos ascii,
      Char.ofNat_toNat]
    exact congrArg (c :: ·) later

def isCoded (c : Char) : Bool := isUnreserved c || c == '+' || c == '%'

theorem isUnreserved_hexChar {n : Nat} (h : n < 16) : isUnreserved (hexChar n) := by
  revert n
  decide

theorem isCoded_of_mem_encodeByte {n : Nat} {c : Char} (h : n < 256) (member : c ∈ encodeByte n) :
    isCoded c := by
  simp only [encodeByte, List.mem_cons, List.not_mem_nil, or_false] at member
  rcases member with rfl | rfl | rfl
  · rfl
  · simp [isCoded, isUnreserved_hexChar (show n / 16 < 16 by omega)]
  · simp [isCoded, isUnreserved_hexChar (show n % 16 < 16 by omega)]

theorem isCoded_of_mem_encode {cs : List Char} {c : Char} (member : c ∈ encode cs) :
    isCoded c := by
  obtain ⟨d, -, inside⟩ := List.mem_flatMap.mp member
  by_cases plain : isUnreserved d
  · simp only [encodeChar, plain, if_true, List.mem_singleton] at inside
    simp [isCoded, inside, plain]
  by_cases blank : d = ' '
  · rw [blank, show encodeChar ' ' = ['+'] from rfl, List.mem_singleton] at inside
    simp [isCoded, inside]
  · simp only [encodeChar, plain, blank, if_false, Bool.false_eq_true] at inside
    obtain ⟨n, byte, digit⟩ := List.mem_flatMap.mp inside
    exact isCoded_of_mem_encodeByte (utf8_small d n byte) digit

end Concordance.Url
