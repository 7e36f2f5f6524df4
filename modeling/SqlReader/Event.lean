import SqlReader.Cursor
import SqlReader.Lexeme

/-! The events that cutting, parsing and reporting a text give rise to, as entries of a log. -/

namespace SqlReader

inductive Level where
  | trace
  | debug
  | info
  | warn
  deriving DecidableEq, Repr

def Level.name : Level → String
  | trace => "TRACE"
  | debug => "DEBUG"
  | info => "INFO"
  | warn => "WARN"

inductive Event where
  /-- A lexeme has become a token. -/
  | lexed (lexeme : Lexeme)
  /-- An alternative of a choice has matched and has left the parser at a token. -/
  | matched (alternative : Nat) (current : Token)
  /-- An alternative has failed at a token, and the parser goes back to where the choice began. -/
  | failed (alternative : Nat) (current : Token) (start : Place)
  /-- A parse has ended after the token at `position`. -/
  | parsed (accepted : Bool) (position tokens : Nat)
  /-- A statement is about to be read. -/
  | processing (text : String)
  /-- A text cannot be cut into lexemes. -/
  | unreadable (error : LexError)
  deriving DecidableEq, Repr

namespace Event

def level : Event → Level
  | lexed _ | matched _ _ | failed _ _ _ => .trace
  | parsed _ _ _ => .debug
  | processing _ => .info
  | unreadable _ => .warn

def message : Event → String
  | lexed lexeme =>
    "Lexed " ++ lexeme.token.line ++ " at (" ++ toString lexeme.start ++ ", " ++
      toString lexeme.token.stop ++ ") by " ++ lexeme.rule.source
  | matched alternative current =>
    "Alternative " ++ toString alternative ++ " matched, now at " ++ current.describe
  | failed alternative current start =>
    "Alternative " ++ toString alternative ++ " failed at " ++ current.describe ++
      ", rewinding to " ++ toString start.position ++ ":" ++ toString start.offset
  | parsed accepted position tokens =>
    "Parse " ++ (if accepted then "accepted" else "rejected") ++ " after " ++ toString position ++
      " of " ++ toString tokens ++ " tokens"
  | processing text => "Processing " ++ Text.quote text
  | unreadable error => error.message

/-- The event as it is logged: the name of its level, and its message. -/
def entry (event : Event) : String × String := (event.level.name, event.message)

end Event

/-- The events of cutting a text: one for each token, in order, also where the text is not
cut to its end. -/
def Scan.events (s : Scan) : List Event := s.emitted.map .lexed

end SqlReader
