import SqlReader.Console
import SqlReader.Settings

/-! Reports on statements: the tokens of a text, whether it parses, and its tree; and the dialogue
that reports on each line of its input. -/

namespace SqlReader

namespace Session

/-- Reports on one statement.  A text that cannot be cut into lexemes has its error reported. -/
def report (settings : Settings) (text : String) : Session Unit := do
  note [.processing text]
  let cut := Scan.ofText lexicon text
  note cut.events
  match cut.result with
  | .error error =>
    note [.unreadable error]
    writeLine ("Error: " ++ error.message)
  | .ok tokens =>
    if settings.showTokens && !tokens.isEmpty then
      writeLine ("\n".intercalate (tokens.map Token.line))
    let parsed ← runParser ParserM.parse (.ofTokens tokens)
    writeLine ("Does parse? " ++ toString parsed.accepted)
    if settings.showTree then
      writeLine ("AST: " ++ parsed.tree.render)

/-- Begins a dialogue. -/
def greet (settings : Settings) : Session Unit := do
  writeLine "SQL Parser Test Program"
  write settings.prompt

/-- Reports on one line of a dialogue and asks for the next; a blank line ends the dialogue, which
is answered with `false`. -/
def answerLine (settings : Settings) (line : List UInt8) : Session Bool := do
  let some text := Text.decode? line | throw .notText
  if Text.isBlank text then return false
  writeLine ""
  report settings text
  write settings.prompt
  return true

/-- Answers lines up to the first blank one. -/
def answerLines (settings : Settings) : List (List UInt8) → Session Unit
  | [] => pure ()
  | line :: rest => do
    if ← answerLine settings line then answerLines settings rest

/-- Ends a dialogue. -/
def takeLeave : Session Unit := writeLine ""

/-- The dialogue over a whole input. -/
def dialogue (settings : Settings) (input : ByteArray) : Session Unit := do
  greet settings
  answerLines settings (Text.lines input.data.toList)
  takeLeave

end Session

end SqlReader
