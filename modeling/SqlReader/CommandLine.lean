import SqlReader.Report

/-! The command line.  With arguments the program reports on them as one statement; without, it
holds a dialogue over standard input. -/

namespace SqlReader

/-- How the program ends: its exit code and what it has written to standard output. -/
structure Exit where
  code : UInt32
  output : ByteArray

namespace CommandLine

/-- The texts of the words of a command line, if all of them are text. -/
def texts? (words : List ByteArray) : Option (List String) :=
  words.mapM fun word => Text.decode? word.data.toList

/-- The session that the arguments ask for. -/
def session (settings : Settings) (arguments : List String) (input : ByteArray) : Session Unit :=
  if arguments.isEmpty then Session.dialogue settings input
  else Session.report settings (" ".intercalate arguments)

/-- The whole program.  The first of the words is its own name, and the others are its arguments.
Settings that cannot be read end it before anything is written, and so does, after them, a word that
is no text: that is not reported as an error but breaks the program off. -/
def run (words : List ByteArray) (input : ByteArray) (environment : Environment) : Exit :=
  match Settings.ofEnvironment environment with
  | .error _ => ⟨1, .empty⟩
  | .ok settings =>
    match texts? words with
    | none => ⟨101, .empty⟩
    | some texts =>
      match (session settings (texts.drop 1) input).run (.empty none) with
      | (.ok (), console) => ⟨0, console.output⟩
      | (.error _, console) => ⟨1, console.output⟩

end CommandLine

end SqlReader
