import SqlReader.Grammar
import SqlReader.Proofs.Cursor.Characters

/-! The grammar of the language as phrases.  Names, integers and literals are told by the
characters of their tokens alone, so a word of the language is a name as well. -/

namespace SqlReader

namespace Phrase

/-- The values of tokens, one after the other. -/
def valueOf (ts : List Token) : String := String.join (ts.map Token.value)

theorem valueOf_singleton (t : Token) : valueOf [t] = t.value := by simp [valueOf]

theorem valueOf_append (ts us : List Token) : valueOf (ts ++ us) = valueOf ts ++ valueOf us := by
  simp [valueOf]

/-- The text between two quotes: the values of the tokens between them, with a space wherever two
tokens do not touch. -/
def quotedValue (ts : List Token) : String :=
  String.ofList (Cursor.spaced none (ts.drop 1).dropLast)

def word (k : Keyword) : Phrase := mark k.spelling

def userDefinedName : Phrase := leaf (token .name) .string valueOf

/-- A column with its table, as `[table].column`. -/
def qualifiedColumn : Phrase :=
  seq (mark "[") (node
    (seq userDefinedName (seq (mark "]") (seq (mark ".") userDefinedName))) .qualifiedName)

def columnName : Phrase := alt qualifiedColumn userDefinedName

/-- The wildcard `*`. -/
def allColumns : Phrase := leaf (mark "*") .string fun _ => "*"

def selectList : Phrase := alt allColumns (list columnName)

def selectStatement : Phrase :=
  seq (word .SELECT) (seq (node selectList .select)
    (seq (word .FROM) (node (list userDefinedName) .tableName)))

def characterStringLiteral : Phrase :=
  leaf (seq (mark "\"") (seq (run .plain) (mark "\""))) .string quotedValue

def sign : Phrase := alt (mark "+") (mark "-")

def signedInteger : Phrase := leaf (seq (optional sign) (token .digits)) .int valueOf

def insertValue : Phrase := alt characterStringLiteral signedInteger

/-- The columns of an insertion, in parentheses, or nothing. -/
def insertColumns : Phrase :=
  optional (seq (mark "(") (node (seq (list userDefinedName) (mark ")")) .columns))

def insertStatement : Phrase :=
  seq (word .INSERT) (seq (word .INTO) (node
    (seq (node userDefinedName .tableName) (seq insertColumns (seq (word .VALUES)
      (seq (mark "(") (node (seq (list insertValue) (mark ")")) .values))))) .insert))

def statement : Phrase := alt insertStatement selectStatement

end Phrase

/-- The phrase of a nonterminal. -/
def Production.phrase : Production → Phrase
  | statement => Phrase.statement
  | insertStatement => Phrase.insertStatement
  | selectStatement => Phrase.selectStatement
  | selectList => Phrase.selectList
  | selectSublist | expression | term | factor | primary | columnName => Phrase.columnName
  | tableReferenceList => .list Phrase.userDefinedName
  | tableReference | tableName | tableIdentifier | columnIdentifier | userDefinedName =>
    Phrase.userDefinedName
  | insertValue => Phrase.insertValue
  | literal | characterStringLiteral => Phrase.characterStringLiteral
  | signedInteger => Phrase.signedInteger

end SqlReader
