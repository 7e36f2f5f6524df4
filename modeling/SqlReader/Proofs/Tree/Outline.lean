import SqlReader.Tree

/-! A tree is determined by its outline: the nodes in pre-order, each with its depth. -/

namespace SqlReader.Tree

/-- The rest of an outline that goes on, if it does, with a node above the given depth. -/
def Above (depth : Nat) (rest : List (Nat × NodeKind × String)) : Prop :=
  ∀ entry ∈ rest.head?, entry.1 < depth

variable {depth : Nat} {rest : List (Nat × NodeKind × String)}

theorem head?_outlineAll (tree : Tree) (later : List Tree) :
    (outlineAll depth (tree :: later) ++ rest).head? = some (depth, tree.kind, tree.value) := by
  obtain ⟨kind, value, children⟩ := tree
  simp [outlineAll, outline]

theorem not_above_outlineAll (tree : Tree) (later : List Tree) :
    ¬Above depth (outlineAll depth (tree :: later) ++ rest) := fun h =>
  Nat.lt_irrefl depth (h _ (head?_outlineAll tree later))

/-- What follows the children of a node is above them. -/
theorem Above.children (h : Above depth rest) (later : List Tree) :
    Above (depth + 1) (outlineAll depth later ++ rest) := by
  intro entry hEntry
  cases later with
  | nil => exact Nat.lt_succ_of_lt (h entry hEntry)
  | cons tree later =>
    rw [head?_outlineAll] at hEntry
    cases hEntry
    exact Nat.lt_succ_self depth

/-- Trees side by side can be read off their outlines, whatever follows them above. -/
theorem outlineAll_append_injective : (depth : Nat) → (as bs : List Tree) →
    (rest rest' : List (Nat × NodeKind × String)) → Above depth rest → Above depth rest' →
    outlineAll depth as ++ rest = outlineAll depth bs ++ rest' → as = bs ∧ rest = rest'
  | _, [], [], _, _, _, _, h => ⟨rfl, h⟩
  | _, [], b :: bs, _, _, hRest, _, h => by
    rw [outlineAll, List.nil_append] at h
    exact absurd (h ▸ hRest) (not_above_outlineAll b bs)
  | _, a :: as, [], _, _, _, hRest', h => by
    rw [outlineAll.eq_1, List.nil_append] at h
    exact absurd (h ▸ hRest') (not_above_outlineAll a as)
  | depth, ⟨kind, value, children⟩ :: as, ⟨kind', value', children'⟩ :: bs, rest, rest',
      hRest, hRest', h => by
    simp only [outlineAll, outline, List.cons_append, List.append_assoc, List.cons.injEq,
      Prod.mk.injEq, true_and] at h
    obtain ⟨⟨rfl, rfl⟩, hChildren⟩ := h
    obtain ⟨rfl, hLater⟩ := outlineAll_append_injective (depth + 1) children children' _ _
      (hRest.children as) (hRest'.children bs) hChildren
    obtain ⟨rfl, rfl⟩ := outlineAll_append_injective depth as bs rest rest' hRest hRest' hLater
    exact ⟨rfl, rfl⟩

theorem outline_injective {a b : Tree} (h : a.outline depth = b.outline depth) : a = b := by
  have hEnd : Above depth [] := by simp [Above]
  have hAll : outlineAll depth [a] ++ [] = outlineAll depth [b] ++ [] := by
    simpa [outlineAll] using h
  exact (List.cons.inj (outlineAll_append_injective depth [a] [b] [] [] hEnd hEnd hAll).1).1

end SqlReader.Tree
