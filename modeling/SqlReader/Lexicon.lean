import SqlReader.Keyword
import SqlReader.Text.WhiteSpace
import SqlReader.Text.WordChar
import SqlReader.Token

/-! The lexicon: an ordered table of patterns, each with the category of what it matches.  The
first pattern that matches wins, so keywords stand before the names that they would match as. -/

namespace SqlReader

/-- What a rule of the lexicon matches at the head of a text. -/
inductive Pattern where
  | space
  | keyword (word : Keyword)
  | char (c : Char)
  | digits
  | name
  deriving DecidableEq, Repr

namespace Pattern

/-- A character of a name. -/
def isNameChar (c : Char) : Bool := c.isAlphanum || c == '_'

/-- What the pattern matches at the head of the text, and nothing if it does not match there.
Runs are as long as the text allows; a keyword is matched in any case, as a whole word. -/
def matched : Pattern → List Char → List Char
  | space, text => text.takeWhile Text.isWhiteSpace
  | keyword word, text =>
    let head := text.take word.spelling.length
    let rest := text.drop word.spelling.length
    if Text.spells head word.spelling && Text.atWordEnd rest then head else []
  | char c, text => if text.head? = some c then [c] else []
  | digits, text => text.takeWhile Char.isDigit
  | name, text => text.takeWhile isNameChar

theorem matched_isPrefix (p : Pattern) (text : List Char) : p.matched text <+: text := by
  cases p with
  | space | digits | name => exact List.takeWhile_prefix _
  | keyword word =>
    simp only [matched]
    split
    · exact List.take_prefix _ _
    · exact List.nil_prefix
  | char c => cases text <;> simp [matched]; split <;> simp_all

/-- The characters that a regular expression does not read as themselves. -/
def metacharacters : List Char := "\\.+*?()|[]\x7b\x7d^$#&-~".toList

/-- The pattern as a regular expression. -/
def source : Pattern → String
  | space => "\\s+"
  | keyword word => "(?i:" ++ word.spelling ++ ")\\b"
  | char c => String.ofList (if c ∈ metacharacters then ['\\', c] else [c])
  | digits => "[0-9]+"
  | name => "[A-Za-z0-9_]+"

end Pattern

/-- A pattern and the category of what it matches. -/
structure Rule where
  pattern : Pattern
  kind : TokenKind
  deriving DecidableEq, Repr

/-- The rule's regular expression, tied to the head of the text. -/
def Rule.source (rule : Rule) : String := "^(?:" ++ rule.pattern.source ++ ")"

/-- The punctuation marks, all of them reserved. -/
def punctuation : List Char := ['(', ')', '[', ']', '+', '-', '=', ',', '.', '"']

/-- The rules in order of priority.  The wildcard `*` counts as a name. -/
def lexicon : List Rule :=
  [⟨.space, .discard⟩] ++ Keyword.all.map (⟨.keyword ·, .reserved⟩) ++
    punctuation.map (⟨.char ·, .reserved⟩) ++ [⟨.char '*', .id⟩, ⟨.digits, .int⟩, ⟨.name, .id⟩]

end SqlReader
