import SqlReader.Proofs.Canonical.Ascii
import SqlReader.Proofs.Canonical.Shapes
import SqlReader.Proofs.Grammar.Decision

/-! A statement tree is the parse of its canonical text. -/

namespace SqlReader

open LeafTexts

variable {text : String} {tokens : List Token} {tree : Tree}

theorem parseText_sql (h : printable.IsStatement tree) :
    parseText tree.sql = .ok ⟨true, tree⟩ := by
  obtain ⟨ts, hDerives, hScan⟩ := prints_statement h 0 [] rfl
  have hLex : lex tree.sql = .ok ts := by
    rw [lex_eq_onePass]
    exact hScan.onePass_eq
  have hBegins : Phrase.BeginsWithStatement ts ⟨ts, tree.children, []⟩ :=
    ⟨(List.append_nil ts).symm, hDerives, by simp⟩
  obtain ⟨outcome, hParse, hAnswer, -⟩ := parse_of_begins hBegins
  have hRoot : (⟨.root, "", tree.children⟩ : Tree) = tree := by cases h <;> rfl
  rw [parseText_of_lex hLex hParse, hAnswer, hRoot]

theorem printable_of_parseText (h : parseText text = .ok ⟨true, tree⟩) :
    printable.IsStatement tree := by
  obtain ⟨tokens, outcome, hLex, hParse, hAnswer⟩ := lex_of_parseText h
  by_cases hBegins : ∃ m, Phrase.BeginsWithStatement tokens m
  · obtain ⟨m, hm⟩ := hBegins
    obtain ⟨outcome', hParse', hAnswer', -⟩ := parse_of_begins hm
    have hTree : tree = ⟨.root, "", m.nodes⟩ := by
      cases hParse.symm.trans hParse'
      exact congrArg Parsed.tree (hAnswer.symm.trans hAnswer')
    have hLexed : Lexed m.taken := by
      refine ⟨0, text.toList, m.rest, ?_⟩
      rw [← lex_eq_onePass, hLex, hm.split]
    rw [hTree]
    exact statement_gives m.taken m.nodes hLexed hm.derives
  · obtain ⟨outcome', hParse', hAnswer', -⟩ := parse_of_not_begins (not_exists.mp hBegins)
    cases hParse.symm.trans hParse'
    cases hAnswer.symm.trans hAnswer'

/-- Statement trees of ASCII, and all trees that some text is accepted as, are the parses of their
canonical texts. -/
theorem sql_reads_back :
    (∀ tree, ascii.IsStatement tree → parseText tree.sql = .ok ⟨true, tree⟩) ∧
    (∀ text tree, parseText text = .ok ⟨true, tree⟩ → parseText tree.sql = .ok ⟨true, tree⟩) :=
  ⟨fun _ h => parseText_sql (ascii_statement h),
    fun _ _ h => parseText_sql (printable_of_parseText h)⟩

/-- An insertion whose names are keywords, with a literal whose second word is cut in two. -/
def insertion : Tree :=
  ⟨.root, "", [⟨.insert, "", [⟨.tableName, "", [.leaf .string "from"]⟩,
    ⟨.columns, "", [.leaf .string "select"]⟩,
    ⟨.values, "", [.leaf .string "a 1b", .leaf .int "-3"]⟩]⟩]⟩

/-- A selection of a column whose name spells a keyword with the long s. -/
def selection : Tree :=
  ⟨.root, "", [⟨.select, "", [.leaf .string "\u017Fet"]⟩, ⟨.tableName, "", [.leaf .string "a"]⟩]⟩

theorem insertion_and_selection_read_back :
    (ascii.IsStatement insertion ∧ parseText insertion.sql = .ok ⟨true, insertion⟩) ∧
    (parseText "select\t\u017Fet\tfrom  a" = .ok ⟨true, selection⟩ ∧
      parseText selection.sql = .ok ⟨true, selection⟩) := by
  have hTable : ascii.IsName (.leaf .string "from") :=
    ⟨"from", ⟨'f', ['r', 'o', 'm'], rfl, rfl, List.all_eq_true.mp rfl⟩, rfl⟩
  have hColumn : ascii.IsName (.leaf .string "select") :=
    ⟨"select", ⟨'s', ['e', 'l', 'e', 'c', 't'], rfl, rfl, List.all_eq_true.mp rfl⟩, rfl⟩
  have hLiteral : ascii.IsValue (.leaf .string "a 1b") :=
    .literal ⟨["a", "1b"], by decide, by simp⟩
  have hInt : ascii.IsValue (.leaf .int "-3") :=
    .int ⟨['-'], ['3'], rfl, by decide, by decide, List.all_eq_true.mp rfl⟩
  have hInsertion : ascii.IsStatement insertion :=
    .insertColumns hTable ⟨by simp, by simpa using hColumn⟩
      ⟨by simp, by simpa using ⟨hLiteral, hInt⟩⟩
  have hSelection : parseText "select\t\u017Fet\tfrom  a" = .ok ⟨true, selection⟩ := by
    have hSome : (parseText "select\t\u017Fet\tfrom  a").toOption = some ⟨true, selection⟩ := by
      decide +kernel
    cases hParse : parseText "select\t\u017Fet\tfrom  a" with
    | error e =>
      rw [hParse] at hSome
      cases hSome
    | ok answer =>
      rw [hParse] at hSome
      cases hSome
      rfl
  exact ⟨⟨hInsertion, sql_reads_back.1 insertion hInsertion⟩, hSelection,
    sql_reads_back.2 _ selection hSelection⟩

end SqlReader
