import SqlReader.Lexicon

/-! Cutting a text into lexemes.  `scan` cuts off what the first matching rule matches until the
text is used up or no rule matches; the tokens are the lexemes of the categories that are kept. -/

namespace SqlReader

/-- A piece of the text with the rule that matched it and the byte at which it starts. -/
structure Lexeme where
  rule : Rule
  value : String
  start : Nat
  deriving DecidableEq, Repr

def Lexeme.token (lexeme : Lexeme) : Token := ⟨lexeme.value, lexeme.rule.kind, lexeme.start⟩

def Lexeme.isEmitted (lexeme : Lexeme) : Bool := lexeme.rule.kind.isEmitted

/-- The text at a byte that no rule matches. -/
structure LexError where
  offset : Nat
  remaining : String
  deriving DecidableEq, Repr

def LexError.message (error : LexError) : String :=
  "Could not parse query text at offset " ++ toString error.offset ++ ": " ++
    Text.quote error.remaining

/-- The first rule that matches at the head of the text, with what it matches. -/
def firstMatch (rules : List Rule) (text : List Char) : Option (Rule × List Char) :=
  rules.findSome? fun rule =>
    let value := rule.pattern.matched text
    if value.isEmpty then none else some (rule, value)

theorem firstMatch_some {rules : List Rule} {text : List Char} {rule : Rule}
    {value : List Char} (h : firstMatch rules text = some (rule, value)) :
    rule ∈ rules ∧ value = rule.pattern.matched text ∧ value ≠ [] := by
  obtain ⟨found, hMem, hFound⟩ := List.exists_of_findSome?_eq_some h
  by_cases hNil : found.pattern.matched text = []
  · simp [hNil] at hFound
  · simp [hNil] at hFound
    obtain ⟨rfl, rfl⟩ := hFound
    exact ⟨hMem, rfl, hNil⟩

theorem firstMatch_isPrefix {rules : List Rule} {text : List Char} {rule : Rule}
    {value : List Char} (h : firstMatch rules text = some (rule, value)) : value <+: text :=
  (firstMatch_some h).2.1 ▸ rule.pattern.matched_isPrefix text

/-- A match leaves a shorter text. -/
theorem firstMatch_shorter {rules : List Rule} {text : List Char} {rule : Rule}
    {value : List Char} (h : firstMatch rules text = some (rule, value)) :
    (text.drop value.length).length < text.length := by
  have hPos := List.length_pos_iff.mpr (firstMatch_some h).2.2
  have hLe := (firstMatch_isPrefix h).length_le
  rw [List.length_drop]
  omega

/-- A text cut into lexemes up to byte `stop`, and the text from there on. -/
structure Scan where
  lexemes : List Lexeme
  stop : Nat
  unread : List Char
  deriving DecidableEq, Repr

/-- Cuts `text`, whose first byte is byte `start` of the source, by the given rules. -/
def scan (rules : List Rule) (start : Nat) (text : List Char) : Scan :=
  match _ : firstMatch rules text with
  | none => ⟨[], start, text⟩
  | some (rule, value) =>
    let rest := scan rules (start + Text.byteSize value) (text.drop value.length)
    { rest with lexemes := ⟨rule, String.ofList value, start⟩ :: rest.lexemes }
termination_by text.length
decreasing_by exact firstMatch_shorter ‹_›

namespace Scan

/-- Cuts a whole text by the given rules. -/
def ofText (rules : List Rule) (text : String) : Scan := scan rules 0 text.toList

/-- The lexemes that become tokens. -/
def emitted (s : Scan) : List Lexeme := s.lexemes.filter Lexeme.isEmitted

/-- The tokens, if the whole text has been cut. -/
def result (s : Scan) : Except LexError (List Token) :=
  if s.unread.isEmpty then .ok (s.emitted.map Lexeme.token)
  else .error ⟨s.stop, String.ofList s.unread⟩

end Scan

/-- The tokens of a text by the given rules. -/
def lexWith (rules : List Rule) (text : String) : Except LexError (List Token) :=
  (Scan.ofText rules text).result

/-- The tokens of a text. -/
def lex (text : String) : Except LexError (List Token) := lexWith lexicon text

end SqlReader
