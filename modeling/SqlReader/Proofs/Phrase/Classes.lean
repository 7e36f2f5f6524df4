import SqlReader.Proofs.Phrase.Predictive
import SqlReader.Proofs.Text.Classes

/-! Classes of tokens that have no token in common. -/

namespace SqlReader.TokenClass

open Text

/-- No token is in both classes. -/
def Apart (a b : TokenClass) : Prop := ∀ t, a.has t = true → b.has t = false

theorem Apart.symm {a b : TokenClass} (h : Apart a b) : Apart b a := fun t hb =>
  Bool.eq_false_iff.mpr fun ha => by simp [h t ha] at hb

theorem terminal_apart {a b : String} (h : sameIgnoringCase a b = false) :
    Apart (terminal a) (terminal b) := by
  intro t ha
  simp only [has, Token.hasText, Bool.and_eq_true, sameIgnoringCase_iff] at ha
  have hNot : sameIgnoringCase t.value b = false := by
    rw [← h, sameIgnoringCase, sameIgnoringCase, ha.2]
  simp [has, Token.hasText, hNot]

theorem value_of_mark {text : String} {m : Char} {t : Token} (hText : text.toList = [m])
    (hm : m.isAlpha = false) (h : (terminal text).has t = true) : t.value.toList = [m] := by
  simp only [has, Token.hasText, Bool.and_eq_true, sameIgnoringCase_iff, hText] at h
  obtain ⟨c, hValue, hLower⟩ := List.map_eq_singleton_iff.mp h.2
  rw [hValue, eq_of_toLower_eq hm hLower]

theorem mark_apart_name {text : String} {m : Char} (hText : text.toList = [m])
    (hm : m.isAlpha = false) (hClass : isAlphabetic m = false) : Apart (terminal text) name := by
  intro t h
  simp [has, isName, value_of_mark hText hm h, hClass]

theorem mark_apart_digits {text : String} {m : Char} (hText : text.toList = [m])
    (hm : m.isAlpha = false) (hClass : m.isDigit = false) : Apart (terminal text) digits := by
  intro t h
  simp [has, isRun, value_of_mark hText hm h, hClass]

theorem mark_apart_plain {text : String} {m : Char} (hText : text.toList = [m])
    (hm : m.isAlpha = false) (hClass : isAlphanumeric m = false) :
    Apart (terminal text) plain := by
  intro t h
  simp [has, isRun, value_of_mark hText hm h, hClass]

end SqlReader.TokenClass
