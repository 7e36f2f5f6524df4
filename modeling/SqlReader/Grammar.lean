import SqlReader.ParserM

/-! The grammar of the language, one action for each nonterminal.  With names of one token, the
statements are

    INSERT INTO name [ "(" name { "," name } ")" ] VALUES "(" value { "," value } ")"
    SELECT ( "*" | column { "," column } ) FROM name { "," name }

where a column is a name, or a name in brackets, a point and a name; and a value is an integer of
one token, with or without a sign before it, or letters and numbers between double quotes.  The
other nonterminals stand for one of these until the language grows.

An action that answers `false` may have consumed tokens and have left nodes open; only `either`
takes that back. -/

namespace SqlReader

namespace Grammar

open ParserM

/-- One token that is a letter followed by letters and numbers; a keyword serves as well. -/
def userDefinedName : ParserM Bool := do
  if !(← atTokenStart) then return false
  let name := (← current).value
  if ← consumeWord Text.isAlphabetic Text.isAlphanumeric then
    add (.leaf .string name)
    return true
  else return false

def tableIdentifier : ParserM Bool := userDefinedName

def tableName : ParserM Bool := tableIdentifier

def tableReference : ParserM Bool := tableName

def tableReferenceList : ParserM Bool := separated tableReference

def columnIdentifier : ParserM Bool := userDefinedName

/-- A column with its table, as `[table].column`. -/
def qualifiedColumn : ParserM Bool :=
  terminal "[" <&&> within .qualifiedName
    (tableName <&&> terminal "]" <&&> terminal "." <&&> columnIdentifier)

def columnName : ParserM Bool := either [qualifiedColumn, columnIdentifier]

def primary : ParserM Bool := columnName

def factor : ParserM Bool := primary

def term : ParserM Bool := factor

def expression : ParserM Bool := term

def selectSublist : ParserM Bool := expression

/-- The wildcard `*`. -/
def allColumns : ParserM Bool := do
  if ← terminal "*" then
    add (.leaf .string "*")
    return true
  else return false

def selectList : ParserM Bool := either [allColumns, separated selectSublist]

/-- The selected columns under one node, then the tables under another. -/
def selectStatement : ParserM Bool :=
  keyword .SELECT <&&> within .select selectList <&&>
    keyword .FROM <&&> within .tableName tableReferenceList

/-- Letters and numbers between double quotes. -/
def characterStringLiteral : ParserM Bool := do
  if !(← terminal "\"") then return false
  let some text ← onCursor (·.quotedText "" none) | return false
  if ← terminal "\"" then
    add (.leaf .string text)
    return true
  else return false

def literal : ParserM Bool := characterStringLiteral

/-- A sign, if there is one. -/
def optionalSign : ParserM String := do
  let sign := (← current).value
  if ← terminalAny ["+", "-"] then return sign else return ""

/-- One token of digits, with or without a sign before it. -/
def signedInteger : ParserM Bool := do
  let sign ← optionalSign
  if !(← atTokenStart) then return false
  let digits := (← current).value
  if ← consumeRest Char.isDigit then
    add (.leaf .int (sign ++ digits))
    return true
  else return false

def insertValue : ParserM Bool := either [literal, signedInteger]

/-- The columns of an insertion, in parentheses, or nothing. -/
def insertColumns : ParserM Bool := do
  if ← terminal "(" then within .columns (separated columnIdentifier <&&> terminal ")")
  else return true

def insertStatement : ParserM Bool :=
  keyword .INSERT <&&> keyword .INTO <&&> within .insert
    (within .tableName tableName <&&> insertColumns <&&>
      keyword .VALUES <&&> terminal "(" <&&>
        within .values (separated insertValue <&&> terminal ")"))

def statement : ParserM Bool := either [insertStatement, selectStatement]

end Grammar

/-- The nonterminals of the grammar. -/
inductive Production where
  | statement
  | insertStatement
  | selectStatement
  | selectList
  | selectSublist
  | expression
  | term
  | factor
  | primary
  | columnName
  | tableReferenceList
  | tableReference
  | tableName
  | tableIdentifier
  | columnIdentifier
  | userDefinedName
  | insertValue
  | literal
  | characterStringLiteral
  | signedInteger
  deriving DecidableEq, Repr

/-- The action that reads a nonterminal. -/
def Production.action : Production → ParserM Bool
  | statement => Grammar.statement
  | insertStatement => Grammar.insertStatement
  | selectStatement => Grammar.selectStatement
  | selectList => Grammar.selectList
  | selectSublist => Grammar.selectSublist
  | expression => Grammar.expression
  | term => Grammar.term
  | factor => Grammar.factor
  | primary => Grammar.primary
  | columnName => Grammar.columnName
  | tableReferenceList => Grammar.tableReferenceList
  | tableReference => Grammar.tableReference
  | tableName => Grammar.tableName
  | tableIdentifier => Grammar.tableIdentifier
  | columnIdentifier => Grammar.columnIdentifier
  | userDefinedName => Grammar.userDefinedName
  | insertValue => Grammar.insertValue
  | literal => Grammar.literal
  | characterStringLiteral => Grammar.characterStringLiteral
  | signedInteger => Grammar.signedInteger

end SqlReader
