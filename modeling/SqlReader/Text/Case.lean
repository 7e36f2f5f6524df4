/-! Letter case.  Texts are compared ignoring the case of the letters `A` to `Z` only; words of the
language are recognised under the simple case folding of all characters. -/

namespace SqlReader.Text

/-- The texts are equal up to the case of the letters `A` to `Z`. -/
def sameIgnoringCase (a b : String) : Bool :=
  a.toList.map Char.toLower == b.toList.map Char.toLower

/-- The simple case folding of a character, where that is a character of ASCII: besides the
capitals, the long s and the Kelvin sign fold to a letter.  Other characters stay as they are. -/
def foldToAscii (c : Char) : Char :=
  if c = '\u017F' then 's' else if c = '\u212A' then 'k' else c.toLower

/-- The characters spell `word`, which is ASCII, under case folding. -/
def spells (cs : List Char) (word : String) : Bool :=
  cs.map foldToAscii == word.toList.map Char.toLower

theorem sameIgnoringCase_iff {a b : String} :
    sameIgnoringCase a b = true ↔ a.toList.map Char.toLower = b.toList.map Char.toLower := by
  simp [sameIgnoringCase]

theorem sameIgnoringCase_refl (a : String) : sameIgnoringCase a a = true :=
  sameIgnoringCase_iff.mpr rfl

end SqlReader.Text
