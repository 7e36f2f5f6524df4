import SqlReader.Grammar

/-! Parsing a statement.  A parse accepts if the tokens begin with a statement; tokens after it
are not read.  Its tree is what the parser has built, a bare root if it rejects. -/

namespace SqlReader

structure Parsed where
  accepted : Bool
  tree : Tree
  deriving DecidableEq, Repr

/-- Reads one statement from where the parser stands. -/
def ParserM.parse : ParserM Parsed := do
  let accepted ← Grammar.statement
  let p ← look id
  note (.parsed accepted p.cursor.place.position p.cursor.tokens.size)
  return ⟨accepted, p.tree⟩

/-- Parses the tokens from the first on. -/
def parse (tokens : List Token) : Except Violation (Outcome Parsed) :=
  ParserM.parse (.ofTokens tokens)

/-- Why a text has no parse. -/
inductive ParseError where
  | unreadable (error : LexError)
  | misuse (violation : Violation)
  deriving DecidableEq, Repr

/-- A text read as a statement, with the events on the way. -/
structure Reading where
  events : List Event
  result : Except ParseError Parsed

/-- Cuts a text into tokens and parses them. -/
def read (text : String) : Reading :=
  let cut := Scan.ofText lexicon text
  match cut.result with
  | .error error => ⟨cut.events, .error (.unreadable error)⟩
  | .ok tokens =>
    match parse tokens with
    | .error violation => ⟨cut.events, .error (.misuse violation)⟩
    | .ok outcome => ⟨cut.events ++ outcome.events, .ok outcome.answer⟩

/-- Parses a text. -/
def parseText (text : String) : Except ParseError Parsed := (read text).result

end SqlReader
