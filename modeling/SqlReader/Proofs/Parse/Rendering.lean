import SqlReader.Proofs.Grammar.Values

/-! Renderings tell trees apart that have no marks in their values.  The trees of parses are such
trees, and the tree of a statement is no bare root; so a parse, with its verdict, is known by its
rendering. -/

namespace SqlReader

namespace Phrase

/-- The phrase stands for one node or more, whatever its tokens. -/
def builds : Phrase → Bool
  | token _ | run _ | optional _ => false
  | seq a b => a.builds || b.builds
  | alt a b => a.builds && b.builds
  | list a => a.builds
  | node _ _ | leaf _ _ _ => true

variable {a : Phrase} {ts : List Token} {ns : List Tree}

theorem Derives.nodes_ne_nil (h : a.Derives ts ns) (hBuilds : a.builds = true) : ns ≠ [] := by
  induction h with
  | token | run | optionalNone | optionalSome => cases hBuilds
  | seq _ _ iha ihb =>
    intro hNil
    obtain ⟨hLeft, hRight⟩ := List.append_eq_nil_iff.mp hNil
    rcases (Bool.or_eq_true _ _).mp hBuilds with h | h
    · exact iha h hLeft
    · exact ihb h hRight
  | altLeft _ ih => exact ih ((Bool.and_eq_true _ _).mp hBuilds).1
  | altRight _ ih => exact ih ((Bool.and_eq_true _ _).mp hBuilds).2
  | listOne _ ih => exact ih hBuilds
  | listMore _ _ _ iha => exact fun hNil => iha hBuilds (List.append_eq_nil_iff.mp hNil).1
  | node | leaf => exact List.cons_ne_nil _ _

end Phrase

variable {tokens tokens' : List Token} {outcome outcome' : Outcome Parsed}

/-- The verdict of a parse can be read off its tree. -/
theorem accepted_iff_tree_ne_bareRoot (h : parse tokens = .ok outcome) :
    outcome.answer.accepted = true ↔ outcome.answer.tree ≠ .bareRoot := by
  obtain ⟨found, hParse, hRead⟩ := parse_eq_read tokens
  obtain rfl : outcome = found := Except.ok.inj (h.symm.trans hParse)
  cases hm : Phrase.statement.read tokens with
  | none =>
    rw [hm] at hRead
    simp [hRead.1]
  | some m =>
    rw [hm] at hRead
    have hNodes := (Phrase.read_finds hm).derives.nodes_ne_nil rfl
    rw [hRead.1]
    simpa [Tree.bareRoot, Tree.leaf] using hNodes

theorem parse_unmarked (h : parse tokens = .ok outcome) :
    ∀ value ∈ outcome.answer.tree.values, Tree.Unmarked value :=
  fun value hValue => (parse_writes h value hValue).unmarked

theorem answer_eq_of_tree_eq (h : parse tokens = .ok outcome) (h' : parse tokens' = .ok outcome')
    (hTree : outcome.answer.tree = outcome'.answer.tree) : outcome.answer = outcome'.answer := by
  have hVerdict := accepted_iff_tree_ne_bareRoot h
  have hVerdict' := accepted_iff_tree_ne_bareRoot h'
  rw [hTree, ← hVerdict', ← Bool.eq_iff_iff] at hVerdict
  calc outcome.answer = ⟨outcome.answer.accepted, outcome.answer.tree⟩ := rfl
    _ = outcome'.answer := by rw [hVerdict, hTree]

/-- Trees of any shape whose values have no bracket, parenthesis or comma in them have the same
rendering exactly if they are the same.  Whatever the tokens, the tree of a parse is such a tree,
and so two parses have the same verdict and the same tree exactly if their renderings are the
same. -/
theorem renderings_tell_parses_apart :
    (∀ a b : Tree, (∀ value ∈ a.values, Tree.Unmarked value) →
      (∀ value ∈ b.values, Tree.Unmarked value) → (a.render = b.render ↔ a = b)) ∧
    (∀ tokens, ∃ outcome, parse tokens = .ok outcome ∧
      ∀ value ∈ outcome.answer.tree.values, Tree.Unmarked value) ∧
    ∀ tokens tokens' outcome outcome', parse tokens = .ok outcome → parse tokens' = .ok outcome' →
      (outcome.answer.tree.render = outcome'.answer.tree.render ↔
        outcome.answer = outcome'.answer) := by
  refine ⟨fun a b ha hb => ⟨Tree.render_injective ha hb, fun h => h ▸ rfl⟩, fun tokens => ?_,
    fun tokens tokens' outcome outcome' h h' => ⟨fun hRender => ?_, fun hAnswer => ?_⟩⟩
  · obtain ⟨outcome, hParse, -⟩ := parse_eq_read tokens
    exact ⟨outcome, hParse, parse_unmarked hParse⟩
  · exact answer_eq_of_tree_eq h h'
      (Tree.render_injective (parse_unmarked h) (parse_unmarked h') hRender)
  · rw [hAnswer]

/-- An empty value and a value after it, in one node and in two; and a parse that is known by its
rendering from one that fails. -/
theorem renderings_tell_empty_values_apart :
    (∀ value ∈ (⟨.values, "", [.leaf .string "", .leaf .int "+1"]⟩ : Tree).values,
        Tree.Unmarked value) ∧
      (∀ value ∈ (⟨.values, "", [⟨.string, "", [.leaf .int "+1"]⟩]⟩ : Tree).values,
        Tree.Unmarked value) ∧
      (⟨.values, "", [.leaf .string "", .leaf .int "+1"]⟩ : Tree).render ≠
        (⟨.values, "", [⟨.string, "", [.leaf .int "+1"]⟩]⟩ : Tree).render ∧
      ∃ o o', parse [⟨"SELECT", .id, 9⟩, ⟨"*", .int, 0⟩, ⟨"from", .id, 3⟩, ⟨"é", .discard, 7⟩] =
          .ok o ∧ parse [⟨"(", .id, 0⟩] = .ok o' ∧
        (o.answer.tree.render = o'.answer.tree.render ↔ o.answer = o'.answer) := by
  obtain ⟨hTrees, -, hParses⟩ := renderings_tell_parses_apart
  have hFlat : ∀ value ∈ (⟨.values, "", [.leaf .string "", .leaf .int "+1"]⟩ : Tree).values,
      Tree.Unmarked value := by
    simp [Tree.values, Tree.valuesAll, Tree.leaf, Tree.Unmarked, Tree.marks]
  have hDeep : ∀ value ∈ (⟨.values, "", [⟨.string, "", [.leaf .int "+1"]⟩]⟩ : Tree).values,
      Tree.Unmarked value := by
    simp [Tree.values, Tree.valuesAll, Tree.leaf, Tree.Unmarked, Tree.marks]
  obtain ⟨o, hParse, -⟩ := parse_eq_read
    [⟨"SELECT", .id, 9⟩, ⟨"*", .int, 0⟩, ⟨"from", .id, 3⟩, ⟨"é", .discard, 7⟩]
  obtain ⟨o', hParse', -⟩ := parse_eq_read [⟨"(", .id, 0⟩]
  refine ⟨hFlat, hDeep, fun h => ?_, o, o', hParse, hParse', hParses _ _ o o' hParse hParse'⟩
  exact absurd ((hTrees _ _ hFlat hDeep).mp h) (by decide)

end SqlReader
