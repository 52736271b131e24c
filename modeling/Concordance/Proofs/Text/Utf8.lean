import Concordance.Text.Utf8

/-! The bytes of a character decode to it, whatever follows them. -/

namespace Concordance.Text

theorem between_byte {low high n : Nat} (h : low ≤ n ∧ n ≤ high) :
    (Unit8.byte n).between low high = some n := by
  simp [Unit8.between, h]

theorem toNat_valid (c : Char) : c.toNat < 0xD800 ∨ 0xDFFF < c.toNat ∧ c.toNat < 0x110000 := c.valid

section Sequences

variable (c : Char) (us : List Unit8)

theorem decodeUtf8_two (low : 0x80 ≤ c.toNat) (high : c.toNat < 0x800) :
    decodeUtf8 (.byte (0xC0 + c.toNat / 64) :: .byte (0x80 + c.toNat % 64) :: us) =
      c :: decodeUtf8 us := by
  have lead : lead? (0xC0 + c.toNat / 64) = some (2, 0x80, 0xBF) := by
    rw [lead?, if_pos (by omega)]
  have second := between_byte (n := 0x80 + c.toNat % 64) (show 0x80 ≤ _ ∧ _ ≤ 0xBF by omega)
  have number : (0xC0 + c.toNat / 64 - 0xC0) * 64 + (0x80 + c.toNat % 64 - 0x80) = c.toNat := by
    omega
  rw [decodeUtf8, if_neg (by omega)]
  simp only [lead, second, if_true, number, Char.ofNat_toNat]

theorem decodeUtf8_three (low : 0x800 ≤ c.toNat) (high : c.toNat < 0x10000) :
    decodeUtf8 (.byte (0xE0 + c.toNat / 4096) :: .byte (0x80 + c.toNat / 64 % 64) ::
      .byte (0x80 + c.toNat % 64) :: us) = c :: decodeUtf8 us := by
  have valid := toNat_valid c
  have lead : ∃ least most, lead? (0xE0 + c.toNat / 4096) = some (3, least, most) ∧
      least ≤ 0x80 + c.toNat / 64 % 64 ∧ 0x80 + c.toNat / 64 % 64 ≤ most := by
    rw [lead?, if_neg (by omega)]
    by_cases first : c.toNat < 0x1000
    · rw [if_pos (by omega)]
      exact ⟨_, _, rfl, by omega, by omega⟩
    rw [if_neg (by omega)]
    by_cases surrogates : 0xD000 ≤ c.toNat ∧ c.toNat < 0xE000
    · rw [if_pos (by omega)]
      exact ⟨_, _, rfl, by omega, by omega⟩
    rw [if_neg (by omega), if_pos (by omega)]
    exact ⟨_, _, rfl, by omega, by omega⟩
  obtain ⟨least, most, lead, bounds⟩ := lead
  have second := between_byte bounds
  have third := between_byte (n := 0x80 + c.toNat % 64) (show 0x80 ≤ _ ∧ _ ≤ 0xBF by omega)
  have number : (0xE0 + c.toNat / 4096 - 0xE0) * 4096 + (0x80 + c.toNat / 64 % 64 - 0x80) * 64 +
      (0x80 + c.toNat % 64 - 0x80) = c.toNat := by
    omega
  rw [decodeUtf8, if_neg (by omega)]
  simp only [lead, second, third, if_true, number, Char.ofNat_toNat]
  rfl

theorem decodeUtf8_four (low : 0x10000 ≤ c.toNat) :
    decodeUtf8 (.byte (0xF0 + c.toNat / 262144) :: .byte (0x80 + c.toNat / 4096 % 64) ::
      .byte (0x80 + c.toNat / 64 % 64) :: .byte (0x80 + c.toNat % 64) :: us) =
      c :: decodeUtf8 us := by
  have valid := toNat_valid c
  have lead : ∃ least most, lead? (0xF0 + c.toNat / 262144) = some (4, least, most) ∧
      least ≤ 0x80 + c.toNat / 4096 % 64 ∧ 0x80 + c.toNat / 4096 % 64 ≤ most := by
    rw [lead?, if_neg (by omega), if_neg (by omega), if_neg (by omega), if_neg (by omega)]
    by_cases first : c.toNat < 0x40000
    · rw [if_pos (by omega)]
      exact ⟨_, _, rfl, by omega, by omega⟩
    rw [if_neg (by omega)]
    by_cases middle : c.toNat < 0x100000
    · rw [if_pos (by omega)]
      exact ⟨_, _, rfl, by omega, by omega⟩
    rw [if_neg (by omega), if_pos (by omega)]
    exact ⟨_, _, rfl, by omega, by omega⟩
  obtain ⟨least, most, lead, bounds⟩ := lead
  have second := between_byte bounds
  have third := between_byte (n := 0x80 + c.toNat / 64 % 64) (show 0x80 ≤ _ ∧ _ ≤ 0xBF by omega)
  have fourth := between_byte (n := 0x80 + c.toNat % 64) (show 0x80 ≤ _ ∧ _ ≤ 0xBF by omega)
  have number : (0xF0 + c.toNat / 262144 - 0xF0) * 262144 +
      (0x80 + c.toNat / 4096 % 64 - 0x80) * 4096 + (0x80 + c.toNat / 64 % 64 - 0x80) * 64 +
      (0x80 + c.toNat % 64 - 0x80) = c.toNat := by
    omega
  rw [decodeUtf8, if_neg (by omega)]
  simp only [lead, second, third, fourth, number, Char.ofNat_toNat]
  rfl

theorem decodeUtf8_utf8 : decodeUtf8 ((utf8 c).map .byte ++ us) = c :: decodeUtf8 us := by
  by_cases one : c.toNat < 0x80
  · simp [utf8, one, decodeUtf8]
  by_cases two : c.toNat < 0x800
  · simpa [utf8, one, two] using decodeUtf8_two c us (by omega) two
  by_cases three : c.toNat < 0x10000
  · simpa [utf8, one, two, three] using decodeUtf8_three c us (by omega) three
  · simpa [utf8, one, two, three] using decodeUtf8_four c us (by omega)

end Sequences

end Concordance.Text
