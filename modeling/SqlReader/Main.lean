import SqlReader.CommandLine

/-! The program.  It reads its settings from the environment, and either reports on its arguments
or answers the lines of standard input as they come.  The runtime hands the arguments over as
texts, so none of them breaks the program off here. -/

namespace SqlReader.Terminal

/-- Writes what a part of the session has written. -/
def deliver {α : Type} (part : Session α) : IO (Except Failure α) := do
  let (answer, console) := part.run (.empty none)
  let output ← IO.getStdout
  output.write console.output
  output.flush
  return answer

/-- One line of the input with its line feed, as far as there is one, after `line`. -/
partial def readLine (input : IO.FS.Stream) (line : ByteArray) : IO ByteArray := do
  let byte ← input.read 1
  if byte.isEmpty then return line
  if byte.data = #[Text.lineFeed] then return line ++ byte
  readLine input (line ++ byte)

/-- Answers lines until one ends the dialogue or the input ends. -/
partial def converse (settings : Settings) (input : IO.FS.Stream) : IO (Except Failure Unit) := do
  match Text.lines (← readLine input .empty).data.toList with
  | [] => deliver Session.takeLeave
  | line :: _ =>
    match ← deliver (Session.answerLine settings line) with
    | .error failure => return .error failure
    | .ok false => deliver Session.takeLeave
    | .ok true => converse settings input

/-- The variables of the process that hold settings. -/
def environment : IO Environment := do
  let values ← Setting.all.mapM fun setting => return (setting.key, ← IO.getEnv setting.key)
  return fun key => (values.lookup key).join.map String.toUTF8

/-- Holds the session that the arguments ask for. -/
def hold (settings : Settings) (arguments : List String) : IO (Except Failure Unit) := do
  if arguments.isEmpty then
    let _ ← deliver (Session.greet settings)
    converse settings (← IO.getStdin)
  else deliver (CommandLine.session settings arguments .empty)

/-- Reports an error and gives its exit code. -/
def fail (message : String) : IO UInt32 := do
  IO.eprintln message
  return 1

end SqlReader.Terminal

open SqlReader Terminal in
def main (arguments : List String) : IO UInt32 := do
  match Settings.ofEnvironment (← environment) with
  | .error error => fail error.message
  | .ok settings =>
    match ← hold settings arguments with
    | .error failure => fail failure.message
    | .ok () => return 0
