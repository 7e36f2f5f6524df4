import SqlReader.EditLog

/-! Logs that grow: the draft that a log builds, what a log keeps under further edits, and what an
action adds to the node that was open. -/

namespace SqlReader

namespace EditLog

/-- The draft with more children in the open node. -/
def Draft.extend (draft : Draft) (nodes : List Tree) : Draft :=
  { draft with node := { draft.node with children := draft.node.children ++ nodes } }

@[simp] theorem Draft.extend_extend (draft : Draft) (ms ns : List Tree) :
    (draft.extend ms).extend ns = draft.extend (ms ++ ns) := by
  simp [extend, List.append_assoc]

@[simp] theorem Draft.extend_nil (draft : Draft) : draft.extend [] = draft := by
  obtain ⟨⟨kind, value, children⟩, around⟩ := draft
  simp [extend]

/-- The tree under construction. -/
def draft (log : EditLog) : Draft := log.edits.foldl Draft.apply .start

theorem build_eq (log : EditLog) : log.build = log.draft.close := rfl

theorem draft_push (edits : Array Edit) (depth depth' : Nat) (edit : Edit) :
    draft ⟨edits.push edit, depth⟩ = (draft ⟨edits, depth'⟩).apply edit := by
  simp [draft]

/-- Nothing that was in the log has been taken back. -/
def Extends (old new : EditLog) : Prop := old.edits.toList <+: new.edits.toList

/-- The edits after those of `old` put the nodes into the node that is open in `old`. -/
structure Gains (old : EditLog) (nodes : List Tree) (new : EditLog) : Prop where
  keeps : old.Extends new
  depth : new.depth = old.depth
  draft : new.draft = old.draft.extend nodes

variable {old mid new : EditLog} {ms ns : List Tree}

theorem Extends.refl (log : EditLog) : log.Extends log := List.prefix_rfl

theorem Extends.trans (h : old.Extends mid) (h' : mid.Extends new) : old.Extends new :=
  List.IsPrefix.trans h h'

theorem extends_push (log : EditLog) (edit : Edit) (depth : Nat) :
    log.Extends ⟨log.edits.push edit, depth⟩ := by
  simp [Extends]

theorem extends_exit {log next : EditLog} (h : log.exit = .ok next) : log.Extends next := by
  unfold exit at h
  split at h
  · cases h
  · cases h
    exact extends_push log _ _

theorem Gains.refl (log : EditLog) : log.Gains [] log :=
  ⟨.refl log, rfl, by simp⟩

theorem Gains.trans (h : old.Gains ms mid) (h' : mid.Gains ns new) : old.Gains (ms ++ ns) new :=
  ⟨h.keeps.trans h'.keeps, h'.depth.trans h.depth, by rw [h'.draft, h.draft, Draft.extend_extend]⟩

theorem gains_add (log : EditLog) (tree : Tree) : log.Gains [tree] (log.add tree) := by
  refine ⟨extends_push _ _ _, rfl, ?_⟩
  rw [add, draft_push _ _ log.depth]
  rfl

theorem gains_node {kind : NodeKind} (h : (old.enter (.leaf kind "")).Gains ns mid) :
    ∃ new, mid.exit = .ok new ∧ old.Gains [⟨kind, "", ns⟩] new := by
  have hOpen : mid.depth = old.depth + 1 := h.depth
  refine ⟨⟨mid.edits.push .exit, mid.depth - 1⟩, by simp [exit, hOpen], ?_, by simp [hOpen], ?_⟩
  · exact (extends_push old _ _).trans (h.keeps.trans (extends_push mid _ _))
  · rw [draft_push _ _ mid.depth, show draft ⟨mid.edits, mid.depth⟩ = mid.draft from rfl, h.draft,
      enter, draft_push _ _ old.depth]
    rfl

/-- Going back to a mark takes back exactly what has come after it. -/
theorem Extends.rollback (h : old.Extends new) : new.rollback old.mark = .ok old := by
  have hSize : old.edits.size ≤ new.edits.size := List.IsPrefix.length_le h
  have hTake : new.edits.take old.edits.size = old.edits := by
    apply Array.toList_inj.mp
    simpa [Array.length_toList] using (List.prefix_iff_eq_take.mp h).symm
  simp only [EditLog.rollback, mark, if_pos hSize, hTake]

end EditLog

end SqlReader
