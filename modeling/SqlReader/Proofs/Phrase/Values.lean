import SqlReader.Proofs.Phrase.Predictive
import SqlReader.Proofs.Tree.Rendering

/-! The values that a phrase puts into its nodes.  What is so of every value that a leaf of the
phrase makes of its tokens, and of the empty one, is so of all values in the nodes. -/

namespace SqlReader.Phrase

/-- What every leaf of the phrase makes of its tokens has the property. -/
def Writes (P : String → Prop) : Phrase → Prop
  | token _ | run _ => True
  | seq a b | alt a b => a.Writes P ∧ b.Writes P
  | optional a | list a | node a _ => a.Writes P
  | leaf a _ value => ∀ ts ns, a.Derives ts ns → P (value ts)

variable {P : String → Prop} {a : Phrase} {ts : List Token} {ns : List Tree}

theorem Derives.values (h : a.Derives ts ns) (hWrites : a.Writes P) (hEmpty : P "") :
    ∀ value ∈ Tree.valuesAll ns, P value := by
  induction h with
  | token | run | optionalNone => exact nofun
  | seq _ _ iha ihb =>
    rw [Tree.valuesAll_append]
    exact List.forall_mem_append.mpr ⟨iha hWrites.1, ihb hWrites.2⟩
  | altLeft _ ih => exact ih hWrites.1
  | altRight _ ih => exact ih hWrites.2
  | optionalSome _ ih | listOne _ ih => exact ih hWrites
  | listMore _ _ _ iha ihb =>
    rw [Tree.valuesAll_append]
    exact List.forall_mem_append.mpr ⟨iha hWrites, ihb hWrites⟩
  | node _ ih =>
    simpa [Tree.valuesAll, Tree.values] using ⟨hEmpty, ih hWrites⟩
  | leaf ha ih => simpa [Tree.valuesAll, Tree.values, Tree.leaf] using hWrites _ _ ha

end SqlReader.Phrase
