import SqlReader.Parse

/-! Where a session writes: an output that may have room for only so many bytes, and a log. -/

namespace SqlReader

/-- Why a session ends early. -/
inductive Failure where
  | outputFull
  /-- A line of input is not UTF-8. -/
  | notText
  | misuse (violation : Violation)
  deriving DecidableEq, Repr

def Failure.message : Failure → String
  | outputFull => "I/O error: failed to write whole buffer"
  | notText => "I/O error: stream did not contain valid UTF-8"
  | misuse violation => violation.message

/-- The bytes written so far, how many more the output takes if it has an end, and the events so
far. -/
structure Console where
  output : ByteArray
  room : Option Nat
  events : Array Event

/-- A console with nothing written, which takes `room` bytes if that is given. -/
def Console.empty (room : Option Nat) : Console := ⟨.empty, room, #[]⟩

/-- A computation that writes to a console and may end early. -/
abbrev Session (α : Type) := ExceptT Failure (StateM Console) α

namespace Session

/-- Writes a text.  One that does not fit fills the output up and ends the session. -/
def write (text : String) : Session Unit := fun console =>
  let bytes := text.toUTF8
  match console.room with
  | none => (.ok (), { console with output := console.output ++ bytes })
  | some room =>
    if bytes.size ≤ room then
      (.ok (), { console with output := console.output ++ bytes, room := some (room - bytes.size) })
    else
      (.error .outputFull,
        { console with output := console.output ++ bytes.extract 0 room, room := some 0 })

def writeLine (text : String) : Session Unit := write (text ++ "\n")

def note (events : List Event) : Session Unit := fun console =>
  (.ok (), { console with events := console.events ++ events.toArray })

/-- Runs a parser action, whose events go to the log. -/
def runParser {α : Type} (action : ParserM α) (p : Parser) : Session α :=
  match action p with
  | .error violation => throw (.misuse violation)
  | .ok outcome => do
    note outcome.events
    return outcome.answer

end Session

end SqlReader
