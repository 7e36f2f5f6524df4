import SqlReader.Proofs.Grammar.Decision
import SqlReader.Proofs.Phrase.Likeness

/-! Token lists that are alike are parsed alike: with the same answer, as many tokens taken, and
trees that are alike. -/

namespace SqlReader

open Phrase

variable {L : Likeness} {ts us : List Token}

namespace Likeness

/-- The leaves of a statement are names and integers, which are made of the values of their tokens,
the wildcard, and literals. -/
theorem statement_respects
    (hValue : ∀ above kind ts us, L.tokens ts us →
      L.tree above (.leaf kind (valueOf ts)) (.leaf kind (valueOf us)))
    (hStar : L.tree .select (.leaf .string "*") (.leaf .string "*"))
    (hQuoted : ∀ ts us, L.tokens ts us →
      L.tree .values (.leaf .string (quotedValue ts)) (.leaf .string (quotedValue us))) :
    statement.Respects L .root := by
  have hName (above : NodeKind) : userDefinedName.Respects L above := ⟨trivial, hValue above _⟩
  have hColumn : columnName.Respects L .select :=
    ⟨⟨trivial, hName _, trivial, trivial, hName _⟩, hName _⟩
  have hColumns : selectList.Respects L .select := ⟨⟨trivial, fun _ _ _ => hStar⟩, hColumn⟩
  have hLiteral : characterStringLiteral.Respects L .values :=
    ⟨⟨trivial, trivial, trivial⟩, hQuoted⟩
  have hInteger : signedInteger.Respects L .values :=
    ⟨⟨⟨trivial, trivial⟩, trivial⟩, hValue _ _⟩
  have hValues : insertValue.Respects L .values := ⟨hLiteral, hInteger⟩
  have hInsert : insertStatement.Respects L .root :=
    ⟨trivial, trivial, hName _, ⟨trivial, hName _, trivial⟩, trivial, trivial, hValues, trivial⟩
  have hSelect : selectStatement.Respects L .root := ⟨trivial, hColumns, trivial, hName _⟩
  exact ⟨hInsert, hSelect⟩

theorem parse_alike (hStatement : statement.Respects L .root) (h : L.tokens ts us) :
    ∃ o o', parse ts = .ok o ∧ parse us = .ok o' ∧
      o.answer.accepted = o'.answer.accepted ∧
      o.parser.cursor.place = o'.parser.cursor.place ∧
      ∀ above, L.tree above o.answer.tree o'.answer.tree := by
  obtain ⟨o, hParse, hFound⟩ := parse_eq_read ts
  obtain ⟨o', hParse', hFound'⟩ := parse_eq_read us
  refine ⟨o, o', hParse, hParse', ?_⟩
  have hRead := read_alike hStatement h
  generalize statement.read ts = x at *
  generalize statement.read us = y at *
  cases hRead with
  | none =>
    rw [hFound.1, hFound'.1, hFound.2, hFound'.2]
    exact ⟨rfl, rfl, L.node .nil⟩
  | some hAlike =>
    rw [hFound.1, hFound'.1, hFound.2, hFound'.2, hAlike.length]
    exact ⟨rfl, rfl, L.node hAlike.nodes⟩

end Likeness

end SqlReader
