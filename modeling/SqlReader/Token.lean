import SqlReader.Text.Bytes
import SqlReader.Text.Case
import SqlReader.Text.Quoted

/-! Tokens: a lexeme, its category, and the byte of the source text at which it starts. -/

namespace SqlReader

/-- The category of a lexeme.  Words and marks of the language are `reserved`; `endOfInput` is the
category of the token past the last one. -/
inductive TokenKind where
  | discard
  | id
  | int
  | reserved
  | endOfInput
  deriving DecidableEq, Repr

namespace TokenKind

def name : TokenKind → String
  | discard => "Discard"
  | id => "Id"
  | int => "Int"
  | reserved => "Reserved"
  | endOfInput => "EndOfInput"

/-- Lexemes of this category become tokens. -/
def isEmitted (kind : TokenKind) : Bool := kind != discard && kind != endOfInput

end TokenKind

structure Token where
  value : String
  kind : TokenKind
  start : Nat
  deriving DecidableEq, Repr

namespace Token

/-- The byte after the lexeme. -/
def stop (token : Token) : Nat := token.start + token.value.utf8ByteSize

/-- The token that a reader sees past the last one. -/
def endOfInput : Token := ⟨"", .endOfInput, 0⟩

def isEnd (token : Token) : Bool := token.kind == .endOfInput

/-- The lexeme is `text`, up to the case of `A` to `Z`. -/
def hasText (token : Token) (text : String) : Bool := Text.sameIgnoringCase token.value text

/-- The tokens have the same category and the same lexeme up to case, wherever they stand. -/
def same (a b : Token) : Bool := a.kind == b.kind && a.hasText b.value

/-- The token as a line of a report. -/
def line (token : Token) : String := token.kind.name ++ ": " ++ token.value

/-- The token with its lexeme quoted and its span. -/
def describe (token : Token) : String :=
  "Token \x7b value: " ++ Text.quote token.value ++ ", kind: " ++ token.kind.name ++
    ", start: " ++ toString token.start ++ ", end: " ++ toString token.stop ++ " \x7d"

end Token

end SqlReader
