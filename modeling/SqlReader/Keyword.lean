/-! The reserved words of the language.  `DELETE`, `SET`, `UPDATE` and `WHERE` are reserved but
begin no statement and belong to none. -/

namespace SqlReader

/-- A reserved word, written as in the language. -/
inductive Keyword where
  | DELETE
  | FROM
  | INSERT
  | INTO
  | SELECT
  | SET
  | UPDATE
  | WHERE
  | VALUES
  deriving DecidableEq, Repr

namespace Keyword

/-- Every keyword, in the order in which the lexicon lists them. -/
def all : List Keyword :=
  [DELETE, FROM, INSERT, INTO, SELECT, SET, UPDATE, WHERE, VALUES]

/-- The canonical spelling. -/
def spelling : Keyword → String
  | DELETE => "DELETE"
  | FROM => "FROM"
  | INSERT => "INSERT"
  | INTO => "INTO"
  | SELECT => "SELECT"
  | SET => "SET"
  | UPDATE => "UPDATE"
  | WHERE => "WHERE"
  | VALUES => "VALUES"

theorem mem_all (k : Keyword) : k ∈ all := by cases k <;> decide

end Keyword

end SqlReader
