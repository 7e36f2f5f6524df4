import SqlReader.Proofs.Grammar.Decision

/-! Which of the two statements is read, and that each of them takes at least four tokens. -/

namespace SqlReader.Phrase

variable {ts : List Token} {ns : List Tree} {a : Phrase} {m : Match}

/-- The least number of tokens of a phrase. -/
def shortest : Phrase → Nat
  | token _ => 1
  | run _ | optional _ => 0
  | seq a b => a.shortest + b.shortest
  | alt a b => min a.shortest b.shortest
  | list a | node a _ | leaf a _ _ => a.shortest

theorem Derives.shortest_le (h : a.Derives ts ns) : a.shortest ≤ ts.length := by
  induction h with
  | token | run | optionalNone | optionalSome => simp [shortest]
  | seq _ _ iha ihb =>
    rw [shortest, List.length_append]
    exact Nat.add_le_add iha ihb
  | altLeft _ ih => exact Nat.le_trans (Nat.min_le_left _ _) ih
  | altRight _ ih => exact Nat.le_trans (Nat.min_le_right _ _) ih
  | listMore _ _ _ ih =>
    rw [shortest, List.length_append]
    exact Nat.le_add_right_of_le ih
  | listOne _ ih | node _ ih | leaf _ ih => exact ih

/-- No statement is shorter than `SELECT * FROM name`. -/
theorem BeginsWithStatement.four_le (h : BeginsWithStatement ts m) : 4 ≤ m.taken.length := by
  have hShortest : statement.shortest = 4 := rfl
  rw [← hShortest]
  exact h.derives.shortest_le

theorem insertStatement_read_iff : insertStatement.read ts = some m ↔
    BeginsWithStatement ts m ∧ insertStatement.Derives m.taken m.nodes := by
  constructor
  · intro h
    refine ⟨statement_read_iff.mp ?_, (read_finds h).derives⟩
    simp [statement, read, h]
  · rintro ⟨hBegins, hDerives⟩
    have hEnds : insertStatement.EndsBefore m.rest := fun t _ => by
      simp [insertStatement, mark, continues, nullable]
    rw [hBegins.split]
    exact hDerives.read_eq insertStatement_predictive hEnds

/-- A selection is read where no insertion is. -/
theorem selectStatement_read_iff :
    insertStatement.read ts = none ∧ selectStatement.read ts = some m ↔
      BeginsWithStatement ts m ∧ selectStatement.Derives m.taken m.nodes := by
  constructor
  · rintro ⟨hNone, h⟩
    refine ⟨statement_read_iff.mp ?_, (read_finds h).derives⟩
    simp [statement, read, hNone, h]
  · rintro ⟨hBegins, hDerives⟩
    have hNone : insertStatement.read ts = none := by
      rw [hBegins.split]
      exact insertStatement_read_of_select hDerives
    have hRead := statement_read_iff.mpr hBegins
    refine ⟨hNone, ?_⟩
    simpa [statement, read, hNone] using hRead

end SqlReader.Phrase
