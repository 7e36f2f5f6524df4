import SqlReader.Proofs.Grammar
import SqlReader.Proofs.Phrase.Classes

/-! One token decides between the phrases of the grammar.  So what is read as a statement is what
is derived as one, except that a selection is never left before a comma. -/

namespace SqlReader.Phrase

open TokenClass

variable {ts rest : List Token} {ns : List Tree} {a : Phrase} {m : Match}

theorem selectStatement_predictive : selectStatement.Predictive := by
  have hBracket : Apart (terminal "[") .name := mark_apart_name rfl (by decide) (by decide)
  have hStar : Apart (terminal "*") .name := mark_apart_name rfl (by decide) (by decide)
  have hStarBracket : Apart (terminal "*") (terminal "[") := terminal_apart (by decide)
  have hFrom : Apart comma (terminal "FROM") := terminal_apart (by decide)
  simpa [selectStatement, selectList, allColumns, columnName, qualifiedColumn, userDefinedName,
    word, Keyword.spelling, mark, Predictive, nullable, first, continues] using
    ⟨⟨hBracket, fun t ht => ⟨hStarBracket t ht, hStar t ht⟩⟩, hFrom⟩

theorem insertValue_predictive : insertValue.Predictive := by
  have hQuote : Apart (terminal "\"") .plain := mark_apart_plain rfl (by decide) (by decide)
  have hQuoteDigits : Apart (terminal "\"") .digits :=
    mark_apart_digits rfl (by decide) (by decide)
  have hQuotePlus : Apart (terminal "\"") (terminal "+") := terminal_apart (by decide)
  have hQuoteMinus : Apart (terminal "\"") (terminal "-") := terminal_apart (by decide)
  have hPlusMinus : Apart (terminal "+") (terminal "-") := terminal_apart (by decide)
  have hPlus : Apart (terminal "+") .digits := mark_apart_digits rfl (by decide) (by decide)
  have hMinus : Apart (terminal "-") .digits := mark_apart_digits rfl (by decide) (by decide)
  simpa [insertValue, characterStringLiteral, signedInteger, sign, mark, Predictive, nullable,
    first, continues] using
    ⟨hQuote.symm, ⟨hPlusMinus, fun t ht => ht.elim (hPlus t) (hMinus t)⟩,
      fun t ht => ⟨⟨hQuotePlus t ht, hQuoteMinus t ht⟩, hQuoteDigits t ht⟩⟩

theorem insertStatement_predictive : insertStatement.Predictive := by
  have hClose : Apart comma (terminal ")") := terminal_apart (by decide)
  have hOpen : Apart (terminal "(") (terminal "VALUES") := terminal_apart (by decide)
  have hValue : ∀ t, insertValue.continues t = false := by
    simp [insertValue, characterStringLiteral, signedInteger, sign, mark, continues, nullable]
  simpa [insertStatement, insertColumns, userDefinedName, word, Keyword.spelling, mark, Predictive,
    nullable, first, continues, hValue] using
    ⟨hClose, ⟨insertValue_predictive, hClose⟩, hOpen⟩

/-! ### Statements -/

theorem list_read_rest (h : a.list.read ts = some m) : ∀ t ∈ m.rest.head?, comma.has t = false := by
  induction hLength : ts.length using Nat.strongRecOn generalizing ts m with
  | _ n ih =>
    rw [read_list] at h
    obtain ⟨one, hOne, h⟩ := Option.bind_eq_some_iff.mp h
    have hShorter := congrArg List.length (read_finds hOne).split
    split at h
    · rename_i hRest
      cases h
      simp [hRest]
    · rename_i t rest hRest
      rw [List.length_append, hRest, List.length_cons] at hShorter
      split at h
      · obtain ⟨more, hMore, rfl⟩ := Option.map_eq_some_iff.mp h
        have hLast := ih rest.length (by omega) hMore rfl
        exact hLast
      · rename_i hComma
        cases h
        rw [hRest]
        intro u hu
        cases hu
        exact Bool.eq_false_iff.mpr hComma

theorem selectStatement_read_rest (h : selectStatement.read ts = some m) :
    ∀ t ∈ m.rest.head?, comma.has t = false := by
  simp only [selectStatement, read, Option.bind_eq_bind, Option.bind_eq_some_iff] at h
  obtain ⟨_, _, _, ⟨_, _, _, ⟨_, _, _, ⟨tables, hTables, hm⟩, h⟩, h'⟩, h''⟩ := h
  cases hm; cases h; cases h'; cases h''
  have hLast := list_read_rest (a := userDefinedName) hTables
  exact hLast

/-- What a reading of the tokens finds is at their head, and is left before no comma if it is a
selection. -/
structure BeginsWithStatement (tokens : List Token) (m : Match) : Prop where
  split : tokens = m.taken ++ m.rest
  derives : statement.Derives m.taken m.nodes
  complete : ∀ nodes, selectStatement.Derives m.taken nodes →
    ∀ t ∈ m.rest.head?, comma.has t = false

theorem insertStatement_read_of_select (h : selectStatement.Derives ts ns) :
    insertStatement.read (ts ++ rest) = none := by
  have hApart : Apart (terminal "SELECT") (terminal "INSERT") := terminal_apart (by decide)
  cases ts with
  | nil => exact absurd h.nullable (by simp [selectStatement, word, mark, nullable])
  | cons t ts =>
    refine read_eq_none (by simp [insertStatement, word, mark, nullable]) fun u hu => ?_
    cases hu
    have hSelect : (terminal "SELECT").has t = true := by
      simpa [selectStatement, word, mark, nullable, first, Keyword.spelling] using h.first
    simpa [insertStatement, word, mark, nullable, first, Keyword.spelling] using hApart t hSelect

/-- A statement is found exactly where there is one. -/
theorem statement_read_iff : statement.read ts = some m ↔ BeginsWithStatement ts m := by
  constructor
  · intro h
    obtain ⟨hSplit, hDerives⟩ := read_finds h
    refine ⟨hSplit, hDerives, fun nodes hSelect => ?_⟩
    have hRead : selectStatement.read ts = some m := by
      rw [hSplit] at h ⊢
      simpa [statement, read, insertStatement_read_of_select hSelect] using h
    exact selectStatement_read_rest hRead
  · rintro ⟨rfl, hDerives, hComplete⟩
    cases hDerives with
    | altLeft hInsert =>
      have hEnds : insertStatement.EndsBefore m.rest := fun t _ => by
        simp [insertStatement, mark, continues, nullable]
      simp [statement, read, hInsert.read_eq insertStatement_predictive hEnds]
    | altRight hSelect =>
      have hEnds : selectStatement.EndsBefore m.rest := fun t ht => by
        have hComma := hComplete _ hSelect t ht
        simp [selectStatement, userDefinedName, continues, nullable, hComma]
      simp [statement, read, insertStatement_read_of_select hSelect,
        hSelect.read_eq selectStatement_predictive hEnds]

end SqlReader.Phrase
