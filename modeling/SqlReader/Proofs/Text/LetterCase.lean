import SqlReader.Proofs.Phrase
import SqlReader.Proofs.Text.Classes

/-! The case of the letters of ASCII.  Every test that texts are read by is the same for all of
these letters, or folds them first, so it does not tell a capital from its small letter. -/

namespace SqlReader

namespace Text

theorem isAlpha_toLower (c : Char) : c.toLower.isAlpha = c.isAlpha := by
  rw [Bool.eq_iff_iff, isAlpha_iff, isAlpha_iff, toNat_toLower]
  split <;> omega

theorem toLower_of_not_isAlpha {c : Char} (h : c.isAlpha = false) : c.toLower = c := by
  have hNot := mt (isAlpha_iff c).mpr (by simp [h])
  apply Char.toNat_inj.mp
  rw [toNat_toLower, if_neg (by omega)]

theorem toLower_toLower (c : Char) : c.toLower.toLower = c.toLower := by
  apply Char.toNat_inj.mp
  rw [toNat_toLower, toNat_toLower]
  by_cases h : 65 ≤ c.toNat ∧ c.toNat ≤ 90
  · rw [if_pos h, if_neg (by omega)]
  · rw [if_neg h, if_neg h]

/-- What is the same for all letters is the same for a letter in both cases. -/
theorem toLower_of_letters {α : Type} {f : Char → α} {a : α}
    (hLetters : ∀ c, c.isAlpha = true → f c = a) (c : Char) : f c.toLower = f c := by
  by_cases h : c.isAlpha = true
  · rw [hLetters c h, hLetters c.toLower (by rw [isAlpha_toLower, h])]
  · rw [toLower_of_not_isAlpha (Bool.eq_false_iff.mpr h)]

theorem lt_of_isAlpha {c : Char} (h : c.isAlpha = true) : c.toNat < 128 :=
  isNameChar_ascii (isNameChar_of_isAlpha h)

theorem utf8Size_toLower (c : Char) : c.toLower.utf8Size = c.utf8Size :=
  toLower_of_letters (a := 1) (fun c h => by
    have hLt := lt_of_isAlpha h
    refine Char.utf8Size_eq_one_iff.mpr ?_
    rw [UInt32.le_iff_toNat_le]
    exact Nat.le_of_lt_succ hLt) c

theorem isWhiteSpace_toLower (c : Char) : isWhiteSpace c.toLower = isWhiteSpace c :=
  toLower_of_letters (fun _ h => isWhiteSpace_of_isNameChar (isNameChar_of_isAlpha h)) c

theorem isNameChar_toLower (c : Char) : Pattern.isNameChar c.toLower = Pattern.isNameChar c :=
  toLower_of_letters (fun _ h => isNameChar_of_isAlpha h) c

theorem isWordChar_toLower (c : Char) : isWordChar c.toLower = isWordChar c :=
  toLower_of_letters (fun _ h => isWordChar_of_isNameChar (isNameChar_of_isAlpha h)) c

theorem isDigit_toLower (c : Char) : c.toLower.isDigit = c.isDigit :=
  toLower_of_letters (fun _ h => isDigit_of_isAlpha h) c

theorem isAlphabetic_toLower (c : Char) : isAlphabetic c.toLower = isAlphabetic c :=
  toLower_of_letters (fun _ h => by rw [isAlphabetic_ascii (lt_of_isAlpha h), h]) c

theorem isAlphanumeric_toLower (c : Char) : isAlphanumeric c.toLower = isAlphanumeric c :=
  toLower_of_letters (f := isAlphanumeric)
    (fun _ h => isAlphanumeric_of_isAlphanum (by simp [Char.isAlphanum, h])) c

theorem eq_toLower_iff {m : Char} (hm : m.isAlpha = false) (c : Char) :
    c.toLower = m ↔ c = m := by
  constructor
  · intro h
    exact eq_of_toLower_eq hm (by rw [h, toLower_of_not_isAlpha hm])
  · rintro rfl
    exact toLower_of_not_isAlpha hm

theorem foldToAscii_toLower (c : Char) : foldToAscii c.toLower = foldToAscii c := by
  by_cases h : c.isAlpha = true
  · have hFold {d : Char} (hd : d.isAlpha = true) : foldToAscii d = d.toLower :=
      foldToAscii_of_ne (fun hEq => by rw [hEq] at hd; exact absurd hd (by decide))
        (fun hEq => by rw [hEq] at hd; exact absurd hd (by decide))
    rw [hFold h, hFold (by rwa [isAlpha_toLower]), toLower_toLower]
  · rw [toLower_of_not_isAlpha (Bool.eq_false_iff.mpr h)]

theorem spells_toLower (cs : List Char) (word : String) :
    spells (cs.map Char.toLower) word = spells cs word := by
  have hFold : foldToAscii ∘ Char.toLower = foldToAscii := funext foldToAscii_toLower
  rw [spells, List.map_map, hFold, spells]

theorem takeWhile_toLower {test : Char → Bool} (hTest : ∀ c, test c.toLower = test c)
    (cs : List Char) :
    (cs.map Char.toLower).takeWhile test = (cs.takeWhile test).map Char.toLower := by
  have hComp : test ∘ Char.toLower = test := funext hTest
  rw [List.takeWhile_map, hComp]

theorem sameIgnoringCase_iff_map {a b : String} :
    sameIgnoringCase a b = true ↔ a.map Char.toLower = b.map Char.toLower := by
  rw [sameIgnoringCase_iff, ← String.toList_map, ← String.toList_map, String.toList_inj]

end Text

open Text

theorem isName_toLower (cs : List Char) : isName (cs.map Char.toLower) = isName cs := by
  have hComp : isAlphanumeric ∘ Char.toLower = isAlphanumeric := funext isAlphanumeric_toLower
  cases cs with
  | nil => rfl
  | cons c cs => rw [List.map_cons, isName, isName, isAlphabetic_toLower, List.all_map, hComp]

theorem isRun_toLower {test : Char → Bool} (hTest : ∀ c, test c.toLower = test c)
    (cs : List Char) : isRun test (cs.map Char.toLower) = isRun test cs := by
  have hComp : test ∘ Char.toLower = test := funext hTest
  rw [isRun, isRun, List.isEmpty_map, List.all_map, hComp]

end SqlReader
