import SqlReader.Tree

/-! The canonical text of a statement tree, and the shapes that statement trees have.  The shapes
leave open which texts are names, integers and literals. -/

namespace SqlReader

namespace Tree

/-- A name, the wildcard, or a column with its table. -/
def itemSql : Tree → String
  | ⟨.qualifiedName, _, [table, column]⟩ => "[" ++ table.value ++ "]." ++ column.value
  | tree => tree.value

def valueSql : Tree → String
  | ⟨.string, text, _⟩ => "\"" ++ text ++ "\""
  | tree => tree.value

def listSql (sql : Tree → String) (trees : List Tree) : String := ", ".intercalate (trees.map sql)

/-- The canonical text; a tree of another shape has none. -/
def sql (tree : Tree) : String :=
  match tree.children with
  | [⟨.select, _, items⟩, ⟨.tableName, _, tables⟩] =>
    "SELECT " ++ listSql itemSql items ++ " FROM " ++ listSql value tables
  | [⟨.insert, _, [⟨.tableName, _, [table]⟩, ⟨.values, _, values⟩]⟩] =>
    "INSERT INTO " ++ table.value ++ " VALUES (" ++ listSql valueSql values ++ ")"
  | [⟨.insert, _, [⟨.tableName, _, [table]⟩, ⟨.columns, _, columns⟩, ⟨.values, _, values⟩]⟩] =>
    "INSERT INTO " ++ table.value ++ " (" ++ listSql value columns ++ ") VALUES (" ++
      listSql valueSql values ++ ")"
  | _ => ""

end Tree

/-- One tree or more, all of one sort. -/
def Listed (sort : Tree → Prop) (trees : List Tree) : Prop :=
  trees ≠ [] ∧ ∀ tree ∈ trees, sort tree

theorem Listed.imp {sort sort' : Tree → Prop} {trees : List Tree} (h : Listed sort trees)
    (hSort : ∀ tree, sort tree → sort' tree) : Listed sort' trees :=
  ⟨h.1, fun tree hTree => hSort tree (h.2 tree hTree)⟩

/-- Which texts stand in the leaves of a statement tree. -/
structure LeafTexts where
  name : String → Prop
  int : String → Prop
  literal : String → Prop

namespace LeafTexts

/-- Names and words of ASCII: a letter followed by letters and digits; digits with or without a
sign; words of letters and digits with one space between two of them. -/
def ascii : LeafTexts where
  name text := ∃ c cs, text.toList = c :: cs ∧ c.isAlpha = true ∧ ∀ d ∈ cs, d.isAlphanum = true
  int text := ∃ sign digits, text.toList = sign ++ digits ∧ sign ∈ [[], ['+'], ['-']] ∧
    digits ≠ [] ∧ ∀ d ∈ digits, d.isDigit = true
  literal text := ∃ words : List String, text = " ".intercalate words ∧
    ∀ word ∈ words, word ≠ "" ∧ ∀ c ∈ word.toList, c.isAlphanum = true

variable (texts : LeafTexts)

def IsName (tree : Tree) : Prop := ∃ name, texts.name name ∧ tree = .leaf .string name

inductive IsItem : Tree → Prop
  | column {tree : Tree} : texts.IsName tree → IsItem tree
  | qualified {table column : Tree} : texts.IsName table → texts.IsName column →
      IsItem ⟨.qualifiedName, "", [table, column]⟩

inductive IsValue : Tree → Prop
  | literal {text : String} : texts.literal text → IsValue (.leaf .string text)
  | int {digits : String} : texts.int digits → IsValue (.leaf .int digits)

/-- The two shapes of statement trees: what is selected from which tables, and the values that are
inserted into a table, with or without the columns they are for. -/
inductive IsStatement : Tree → Prop
  | selectAll {tables : List Tree} : Listed texts.IsName tables →
      IsStatement ⟨.root, "", [⟨.select, "", [.leaf .string "*"]⟩, ⟨.tableName, "", tables⟩]⟩
  | select {items tables : List Tree} : Listed texts.IsItem items → Listed texts.IsName tables →
      IsStatement ⟨.root, "", [⟨.select, "", items⟩, ⟨.tableName, "", tables⟩]⟩
  | insert {table : Tree} {values : List Tree} : texts.IsName table →
      Listed texts.IsValue values →
      IsStatement ⟨.root, "", [⟨.insert, "", [⟨.tableName, "", [table]⟩, ⟨.values, "", values⟩]⟩]⟩
  | insertColumns {table : Tree} {columns values : List Tree} : texts.IsName table →
      Listed texts.IsName columns → Listed texts.IsValue values →
      IsStatement ⟨.root, "", [⟨.insert, "", [⟨.tableName, "", [table]⟩, ⟨.columns, "", columns⟩,
        ⟨.values, "", values⟩]⟩]⟩

variable {texts} {others : LeafTexts} {tree : Tree}

theorem IsName.imp (h : texts.IsName tree) (hName : ∀ text, texts.name text → others.name text) :
    others.IsName tree := by
  obtain ⟨name, hText, rfl⟩ := h
  exact ⟨name, hName name hText, rfl⟩

theorem IsItem.imp (h : texts.IsItem tree) (hName : ∀ text, texts.name text → others.name text) :
    others.IsItem tree := by
  cases h with
  | column hColumn => exact .column (hColumn.imp hName)
  | qualified hTable hColumn => exact .qualified (hTable.imp hName) (hColumn.imp hName)

theorem IsValue.imp (h : texts.IsValue tree) (hInt : ∀ text, texts.int text → others.int text)
    (hLiteral : ∀ text, texts.literal text → others.literal text) : others.IsValue tree := by
  cases h with
  | literal hText => exact .literal (hLiteral _ hText)
  | int hText => exact .int (hInt _ hText)

theorem IsStatement.imp (h : texts.IsStatement tree)
    (hName : ∀ text, texts.name text → others.name text)
    (hInt : ∀ text, texts.int text → others.int text)
    (hLiteral : ∀ text, texts.literal text → others.literal text) : others.IsStatement tree := by
  cases h with
  | selectAll hTables => exact .selectAll (hTables.imp fun _ h => h.imp hName)
  | select hItems hTables =>
    exact .select (hItems.imp fun _ h => h.imp hName) (hTables.imp fun _ h => h.imp hName)
  | insert hTable hValues =>
    exact .insert (hTable.imp hName) (hValues.imp fun _ h => h.imp hInt hLiteral)
  | insertColumns hTable hColumns hValues =>
    exact .insertColumns (hTable.imp hName) (hColumns.imp fun _ h => h.imp hName)
      (hValues.imp fun _ h => h.imp hInt hLiteral)

end LeafTexts

end SqlReader
