import WideColumn.Text.Blank
import WideColumn.Text.Digit

/-! The classes of ASCII characters. The tables of code points increase, so only the ranges at their
front matter for an ASCII character, and each class is the one of the standard library. -/
namespace WideColumn.Text

theorem covers_front {front rest : List (Nat × Nat)} {n lo hi : Nat} (below : n < lo) :
    covers (front ++ (lo, hi) :: rest) n = covers front n := by
  induction front with
  | nil => simp [covers, blockStart?, below]
  | cons range front ih =>
    obtain ⟨start, stop⟩ := range
    simp only [covers, List.cons_append, blockStart?] at ih ⊢
    split
    · rfl
    · split
      · rfl
      · exact ih

variable {c : Char}

theorem isAlpha_iff_toNat : c.isAlpha = true ↔
    (65 ≤ c.toNat ∧ c.toNat ≤ 90) ∨ (97 ≤ c.toNat ∧ c.toNat ≤ 122) := by
  change (decide (65 ≤ c.val ∧ c.val ≤ 90) ||
    (decide (97 ≤ c.val) && decide (c.val ≤ 122))) = true ↔ _
  simp [UInt32.le_iff_toNat_le, ← Char.toNat_val]

theorem not_isBlank_of_isAlpha (alpha : c.isAlpha = true) : isBlank c = false := by
  have front : ∃ rest, blankRanges = [(9, 13), (28, 32)] ++ (133, 133) :: rest := ⟨_, rfl⟩
  obtain ⟨rest, table⟩ := front
  rw [isAlpha_iff_toNat] at alpha
  rw [isBlank, table, covers_front (by omega)]
  simp only [covers, blockStart?]
  grind

section

variable (ascii : c.toNat < 128)
include ascii

theorem isLetter_ascii : isLetter c = c.isAlpha := by
  have front : ∃ rest, letterRanges = [(65, 90), (97, 122)] ++ (170, 170) :: rest := ⟨_, rfl⟩
  obtain ⟨rest, table⟩ := front
  rw [isLetter, table, covers_front (by omega), Bool.eq_iff_iff, isAlpha_iff_toNat]
  simp only [covers, blockStart?]
  grind

theorem isDigit_ascii : isDigit c = c.isDigit := by
  have front : ∃ rest, decimalRanges = [(48, 57)] ++ (1632, 1641) :: rest := ⟨_, rfl⟩
  obtain ⟨rest, table⟩ := front
  have decimal : (decimalValue? c).isSome = covers [(48, 57)] c.toNat := by
    rw [decimalValue?, Option.isSome_map, table]
    exact covers_front (by omega)
  have other : covers undecimalRanges c.toNat = false :=
    @covers_front [] _ c.toNat 178 179 (by omega)
  rw [isDigit, decimal, other, Bool.or_false, Bool.eq_iff_iff, Char.isDigit_iff_toNat]
  simp only [covers, blockStart?]
  grind

theorem isLetterOrNumeral_ascii : isLetterOrNumeral c = c.isAlphanum := by
  have other : covers numeralRanges c.toNat = false :=
    @covers_front [] _ c.toNat 188 190 (by omega)
  rw [isLetterOrNumeral, isNumeral, isLetter_ascii ascii, isDigit_ascii ascii, other, Bool.or_false,
    Char.isAlphanum]

end

end WideColumn.Text
