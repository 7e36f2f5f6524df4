import SqlReader.Proofs.Lexing.Direct
import SqlReader.Proofs.Text.LetterCase

/-! A change of letter case changes nothing about how a text is cut: the tokens stand at the same
places, have the same categories, and their lexemes are changed as the text is. -/

namespace SqlReader

open Text Pattern

theorem headWord_toLower (text : List Char) :
    headWord (text.map Char.toLower) = (headWord text).map Char.toLower :=
  takeWhile_toLower isWordChar_toLower text

theorem headKeyword?_toLower (text : List Char) :
    headKeyword? (text.map Char.toLower) = headKeyword? text := by
  simp only [headKeyword?, headWord_toLower, spells_toLower]

theorem mem_punctuation_toLower (c : Char) : c.toLower ∈ punctuation ↔ c ∈ punctuation := by
  have hMark : ∀ m ∈ punctuation, m.isAlpha = false := fun m hm =>
    (marks_outside_names m (List.mem_cons_of_mem _ hm)).2.2.2
  constructor
  · intro h
    rwa [← (eq_toLower_iff (hMark _ h) c).mp rfl] at h
  · intro h
    rwa [toLower_of_not_isAlpha (hMark c h)]

theorem ruleLexeme_toLower (c : Char) (cs : List Char) (hSpace : isWhiteSpace c = false) :
    ruleLexeme ((c :: cs).map Char.toLower) =
      (ruleLexeme (c :: cs)).map fun found => (found.1, found.2.map Char.toLower) := by
  have hSpace' : isWhiteSpace c.toLower = false := by rw [isWhiteSpace_toLower, hSpace]
  have hKeyword := headKeyword?_toLower (c :: cs)
  have hWord := headWord_toLower (c :: cs)
  have hDigits := takeWhile_toLower isDigit_toLower (c :: cs)
  have hNames := takeWhile_toLower isNameChar_toLower (c :: cs)
  rw [List.map_cons] at hKeyword hWord hDigits hNames ⊢
  rw [ruleLexeme_cons hSpace', ruleLexeme_cons hSpace, hKeyword, hWord, hDigits, hNames]
  cases headKeyword? (c :: cs) with
  | some k => rfl
  | none =>
    have hStar : c.toLower = '*' ↔ c = '*' := eq_toLower_iff (by decide) c
    simp only [mem_punctuation_toLower, hStar, isDigit_toLower, isNameChar_toLower]
    repeat' split
    all_goals rfl

/-- The tokens, or the error, of a text in small letters are those of the text in small letters. -/
theorem lex_toLower (text : String) :
    lex (text.map Char.toLower) = scanImage Char.toLower 0 (lex text) := by
  have hImage :=
    onePass_image utf8Size_toLower isWhiteSpace_toLower ruleLexeme_toLower 0 0 text.toList
  rwa [← String.toList_map, ← lex_eq_onePass, ← lex_eq_onePass] at hImage

end SqlReader
