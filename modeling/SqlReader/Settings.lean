import SqlReader.Text.Bytes
import SqlReader.Text.Case
import SqlReader.Text.WhiteSpace

/-! The settings of a session, read from the environment.  A variable that is not set leaves the
default; the first variable that cannot be read is reported. -/

namespace SqlReader

structure Settings where
  prompt : String := "Enter a SQL command: "
  showTokens : Bool := true
  showTree : Bool := true
  /-- What is logged to standard error unless another filter is in force. -/
  log : String := "warn"
  deriving DecidableEq, Repr

/-- The bytes of each environment variable that is set. -/
abbrev Environment := String → Option ByteArray

/-- A setting, by which the environment is asked for it. -/
inductive Setting where
  | prompt
  | showTokens
  | showTree
  | log
  deriving DecidableEq, Repr

namespace Setting

/-- Every setting, in the order in which they are read. -/
def all : List Setting := [prompt, showTokens, showTree, log]

/-- The environment variable that holds the setting. -/
def key : Setting → String
  | prompt => "MINSQL_PROMPT"
  | showTokens => "MINSQL_SHOW_TOKENS"
  | showTree => "MINSQL_SHOW_AST"
  | log => "MINSQL_LOG"

/-- The setting as messages name it. -/
def label : Setting → String
  | prompt => "Config::prompt"
  | showTokens => "Config::show_tokens"
  | showTree => "Config::show_ast"
  | log => "Config::log"

end Setting

/-- Why a setting cannot be read. -/
inductive SettingsError where
  | notText (setting : Setting)
  /-- A text, given without the white space around it, that is no flag. -/
  | notFlag (setting : Setting) (given : String)
  deriving DecidableEq, Repr

def SettingsError.message : SettingsError → String
  | notText setting =>
    "Configuration error: failed to load value `" ++ setting.label ++
      "` from environment variable `" ++ setting.key ++ "`: value is not valid unicode"
  | notFlag setting given =>
    "Configuration error: failed to deserialize value `" ++ setting.label ++
      "` from environment variable `" ++ setting.key ++ "`: invalid value for bool: '" ++
      given ++ "'"

namespace Settings

/-- The text of a setting's variable, if it is set. -/
def readText (environment : Environment) (setting : Setting) :
    Except SettingsError (Option String) :=
  match environment setting.key with
  | none => .ok none
  | some bytes =>
    match Text.decode? bytes.data.toList with
    | some text => .ok (some text)
    | none => .error (.notText setting)

/-- The words for a flag, in any case. -/
def flag? (text : String) : Option Bool :=
  if ["1", "true", "yes"].any (Text.sameIgnoringCase text) then some true
  else if ["0", "false", "no"].any (Text.sameIgnoringCase text) then some false
  else none

/-- The flag in a setting's variable, if it is set.  White space around the flag does not count,
and an empty value counts as none. -/
def readFlag (environment : Environment) (setting : Setting) :
    Except SettingsError (Option Bool) := do
  match ← readText environment setting with
  | none => return none
  | some text =>
    match flag? (Text.trim text) with
    | some flag => return some flag
    | none => if text.isEmpty then return none else throw (.notFlag setting (Text.trim text))

/-- The settings of an environment. -/
def ofEnvironment (environment : Environment) : Except SettingsError Settings := do
  let defaults : Settings := {}
  let prompt ← readText environment .prompt
  let showTokens ← readFlag environment .showTokens
  let showTree ← readFlag environment .showTree
  let log ← readText environment .log
  return {
    prompt := prompt.getD defaults.prompt
    showTokens := showTokens.getD defaults.showTokens
    showTree := showTree.getD defaults.showTree
    log := log.getD defaults.log }

end Settings

end SqlReader
