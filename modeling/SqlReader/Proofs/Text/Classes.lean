import SqlReader.Lexicon
import SqlReader.Text.Case

/-! The classes of characters by code point.  On the characters of ASCII the tables agree with the
letters, the digits and the characters of names; white space and the marks of the language belong
to no word; and every character that folds to a letter of ASCII belongs to one. -/

namespace SqlReader.Text

theorem isAlpha_iff (c : Char) :
    c.isAlpha = true ↔ 65 ≤ c.toNat ∧ c.toNat ≤ 90 ∨ 97 ≤ c.toNat ∧ c.toNat ≤ 122 := by
  have hUpper : c.isUpper = decide (65 ≤ c.val ∧ c.val ≤ 90) := rfl
  have hLower : c.isLower = (decide (97 ≤ c.val) && decide (c.val ≤ 122)) := rfl
  have hAlpha : c.isAlpha = (c.isUpper || c.isLower) := rfl
  simp [hAlpha, hUpper, hLower, UInt32.le_iff_toNat_le]

theorem isDigit_iff (c : Char) : c.isDigit = true ↔ 48 ≤ c.toNat ∧ c.toNat ≤ 57 := by
  simp [Char.isDigit, UInt32.le_iff_toNat_le]

theorem isDigit_of_isAlpha {c : Char} (h : c.isAlpha = true) : c.isDigit = false := by
  rw [isAlpha_iff] at h
  rw [Bool.eq_false_iff, ne_eq, isDigit_iff]
  omega

theorem isAlpha_of_isDigit {c : Char} (h : c.isDigit = true) : c.isAlpha = false := by
  rw [isDigit_iff] at h
  rw [Bool.eq_false_iff, ne_eq, isAlpha_iff]
  omega

theorem toNat_toLower (c : Char) :
    c.toLower.toNat = if 65 ≤ c.toNat ∧ c.toNat ≤ 90 then c.toNat + 32 else c.toNat := by
  have hLow : 'A'.val ≤ c.val ↔ 65 ≤ c.toNat := UInt32.le_iff_toNat_le
  have hHigh : c.val ≤ 'Z'.val ↔ c.toNat ≤ 90 := UInt32.le_iff_toNat_le
  split
  · rename_i h
    have hUpper : 'A'.val ≤ c.val ∧ c.val ≤ 'Z'.val := ⟨hLow.mpr h.1, hHigh.mpr h.2⟩
    have hVal : c.toLower.val = c.val + 32 := congrArg Char.val (dif_pos hUpper)
    have hLe : c.val.toNat ≤ 90 := h.2
    have hLt : c.val.toNat + 32 < 2 ^ 32 := by omega
    show c.toLower.val.toNat = c.val.toNat + 32
    rw [hVal]
    exact (UInt32.toNat_add c.val 32).trans (Nat.mod_eq_of_lt hLt)
  · rename_i h
    rw [← hLow, ← hHigh] at h
    exact congrArg Char.toNat (dif_neg h)

theorem eq_of_toLower_eq {c m : Char} (hm : m.isAlpha = false) (h : c.toLower = m.toLower) :
    c = m := by
  have hNat := congrArg Char.toNat h
  have hNot := mt (isAlpha_iff m).mpr (by simp [hm])
  rw [toNat_toLower, toNat_toLower] at hNat
  apply Char.toNat_inj.mp
  split at hNat <;> split at hNat <;> omega

/-! ### The tables on ASCII -/

theorem tables_ascii : ∀ n < 128,
    alphabetic.contains n = decide (65 ≤ n ∧ n ≤ 90 ∨ 97 ≤ n ∧ n ≤ 122) ∧
      number.contains n = decide (48 ≤ n ∧ n ≤ 57) ∧
      decimalDigit.contains n = decide (48 ≤ n ∧ n ≤ 57) ∧
      combiningMark.contains n = false ∧ connector.contains n = decide (n = 95) ∧
      joinControl.contains n = false ∧ newInWords.contains n = false ∧
      whiteSpace.contains n = decide (9 ≤ n ∧ n ≤ 13 ∨ n = 32) := by
  decide

theorem isAlphabetic_ascii {c : Char} (h : c.toNat < 128) : isAlphabetic c = c.isAlpha := by
  rw [Bool.eq_iff_iff, isAlpha_iff, isAlphabetic, (tables_ascii _ h).1]
  simp

theorem isNumber_ascii {c : Char} (h : c.toNat < 128) : isNumber c = c.isDigit := by
  rw [Bool.eq_iff_iff, isDigit_iff, isNumber, (tables_ascii _ h).2.1]
  simp

theorem isNameChar_iff (c : Char) :
    Pattern.isNameChar c = true ↔ c.isAlpha = true ∨ c.isDigit = true ∨ c.toNat = 95 := by
  have hUnderscore : c = '_' ↔ c.toNat = 95 := Char.toNat_inj.symm
  simp [Pattern.isNameChar, Char.isAlphanum, hUnderscore, or_assoc]

theorem isNameChar_of_isAlpha {c : Char} (h : c.isAlpha = true) : Pattern.isNameChar c = true :=
  (isNameChar_iff c).mpr (.inl h)

theorem isNameChar_of_isDigit {c : Char} (h : c.isDigit = true) : Pattern.isNameChar c = true :=
  (isNameChar_iff c).mpr (.inr (.inl h))

theorem isNameChar_of_isAlphanum {c : Char} (h : c.isAlphanum = true) :
    Pattern.isNameChar c = true := by
  simp [Pattern.isNameChar, h]

theorem isNameChar_ascii {c : Char} (h : Pattern.isNameChar c = true) : c.toNat < 128 := by
  rw [isNameChar_iff, isAlpha_iff, isDigit_iff] at h
  omega

theorem isWordChar_ascii {c : Char} (h : c.toNat < 128) : isWordChar c = Pattern.isNameChar c := by
  obtain ⟨hAlpha, -, hDigit, hMark, hConnector, hJoin, hNew, -⟩ := tables_ascii _ h
  rw [Bool.eq_iff_iff, isNameChar_iff, isAlpha_iff, isDigit_iff]
  simp [isWordChar, isAlphabetic, isDecimalDigit, hAlpha, hDigit, hMark, hConnector, hJoin, hNew,
    or_assoc]

theorem isWordChar_of_isNameChar {c : Char} (h : Pattern.isNameChar c = true) :
    isWordChar c = true := by
  rw [isWordChar_ascii (isNameChar_ascii h), h]

theorem isAlphanumeric_of_isAlphanum {c : Char} (h : c.isAlphanum = true) :
    isAlphanumeric c = true := by
  have hAscii := isNameChar_ascii (isNameChar_of_isAlphanum h)
  rw [isAlphanumeric, isAlphabetic_ascii hAscii, isNumber_ascii hAscii]
  exact h

/-! ### White space -/

/-- The code points of white space, one by one. -/
def whiteSpaceCodes : List Nat := whiteSpace.flatMap fun r => List.range' r.1 (r.2 + 1 - r.1)

theorem toNat_mem_whiteSpaceCodes {c : Char} (h : isWhiteSpace c = true) :
    c.toNat ∈ whiteSpaceCodes := by
  obtain ⟨range, hMem, hLow, hHigh⟩ := Ranges.exists_of_contains h
  refine List.mem_flatMap.mpr ⟨range, hMem, ?_⟩
  rw [List.mem_range'_1]
  omega

theorem isWordChar_whiteSpace {c : Char} (h : isWhiteSpace c = true) : isWordChar c = false := by
  have hAll : ∀ n ∈ whiteSpaceCodes, (alphabetic.contains n || combiningMark.contains n ||
      decimalDigit.contains n || connector.contains n || joinControl.contains n) = false := by
    decide +kernel
  have hOut := hAll _ (toNat_mem_whiteSpaceCodes h)
  simp only [isWordChar, isAlphabetic, isDecimalDigit, hOut, Bool.false_and]

theorem isWhiteSpace_of_isWordChar {c : Char} (h : isWordChar c = true) : isWhiteSpace c = false :=
  Bool.eq_false_iff.mpr fun hSpace => by simp [isWordChar_whiteSpace hSpace] at h

theorem isWhiteSpace_of_isNameChar {c : Char} (h : Pattern.isNameChar c = true) :
    isWhiteSpace c = false :=
  isWhiteSpace_of_isWordChar (isWordChar_of_isNameChar h)

/-! ### Case folding -/

/-- The letter that folds to `s` and is no letter of ASCII. -/
def longS : Char := '\u017F'

theorem foldToAscii_of_ne {c : Char} (hLong : c ≠ longS) (hKelvin : c ≠ '\u212A') :
    foldToAscii c = c.toLower := by
  rw [longS] at hLong
  rw [foldToAscii, if_neg hLong, if_neg hKelvin]

/-- A letter of ASCII other than `k` is folded to by itself, and `s` by the long s as well. -/
theorem isAlpha_of_foldToAscii {c : Char} (h : (foldToAscii c).isAlpha = true)
    (hk : foldToAscii c ≠ 'k') : c.isAlpha = true ∨ c = longS := by
  by_cases hLong : c = longS
  · exact .inr hLong
  · have hKelvin : c ≠ '\u212A' := by
      rintro rfl
      exact hk rfl
    rw [foldToAscii_of_ne hLong hKelvin, isAlpha_iff, toNat_toLower] at h
    rw [isAlpha_iff]
    split at h <;> omega

theorem isWordChar_longS : isWordChar longS = true := by decide +kernel

end SqlReader.Text
