import SqlReader.Proofs.EditLog.Outline
import SqlReader.Proofs.Tree.Outline

/-! What a log can come to by edits, marks and going back to live marks.  A mark is live until one
goes back to a shorter log.  Such a run keeps the depth and the nesting of the edits right, going
back to a live mark restores the log marked, and the tree of the log is the one of its edits. -/

namespace SqlReader

namespace EditLog

/-- The log counts the nodes that are open, and none has been exited that was not. -/
structure Sound (log : EditLog) : Prop where
  depth : log.depth = opened log.edits.toList
  nested : Nested log.edits.toList

/-- The logs that runs come to, each with the logs whose marks are live.  Going back to the mark of
`old` ends the marks of longer logs. -/
inductive Reached : EditLog → List EditLog → Prop
  | empty : Reached .empty []
  | add {log : EditLog} {live : List EditLog} (h : Reached log live) (tree : Tree) :
      Reached (log.add tree) live
  | enter {log : EditLog} {live : List EditLog} (h : Reached log live) (tree : Tree) :
      Reached (log.enter tree) live
  | exit {log next : EditLog} {live : List EditLog} (h : Reached log live)
      (hExit : log.exit = .ok next) : Reached next live
  | mark {log : EditLog} {live : List EditLog} (h : Reached log live) : Reached log (log :: live)
  | rollback {log old next : EditLog} {live : List EditLog} (h : Reached log live)
      (hLive : old ∈ live) (hBack : log.rollback old.mark = .ok next) :
      Reached next (live.filter fun kept => kept.edits.size ≤ old.edits.size)

variable {log old next kept : EditLog} {live : List EditLog} {tree : Tree}

/-! ### Edits -/

theorem sound_empty : Sound .empty :=
  ⟨rfl, fun before h => by rw [List.prefix_nil.mp h]; exact Nat.le_refl 0⟩

theorem Sound.add (h : log.Sound) (tree : Tree) : (log.add tree).Sound := by
  have hLe := h.nested _ List.prefix_rfl
  have hEdits : (log.add tree).edits.toList = log.edits.toList ++ [.add tree] := Array.toList_push
  constructor
  · rw [hEdits, opened_add]
    exact h.depth
  · rw [hEdits]
    refine nested_append_singleton h.nested ?_
    rw [exited_append, entered_append]
    exact Nat.add_le_add hLe (Nat.le_refl 0)

theorem Sound.enter (h : log.Sound) (tree : Tree) : (log.enter tree).Sound := by
  have hLe := h.nested _ List.prefix_rfl
  have hEdits : (log.enter tree).edits.toList = log.edits.toList ++ [.enter tree] :=
    Array.toList_push
  constructor
  · rw [hEdits, opened_enter h.nested, ← h.depth]
    rfl
  · rw [hEdits]
    refine nested_append_singleton h.nested ?_
    rw [exited_append, entered_append]
    exact Nat.add_le_add hLe (Nat.zero_le 1)

/-- A log that is not at its root has an open node, which the exit closes. -/
theorem Sound.exit (h : log.Sound) (hExit : log.exit = .ok next) : next.Sound := by
  unfold EditLog.exit at hExit
  split at hExit
  · cases hExit
  · rename_i hDepth
    cases hExit
    have hOpen := h.depth
    have hEdits : (log.edits.push .exit).toList = log.edits.toList ++ [.exit] := Array.toList_push
    have hNested : Nested (log.edits.toList ++ [.exit]) := by
      refine nested_append_singleton h.nested ?_
      rw [exited_append, entered_append]
      show exited log.edits.toList + 1 ≤ entered log.edits.toList + 0
      unfold opened at hOpen
      omega
    refine ⟨?_, by rw [hEdits]; exact hNested⟩
    have hClosed := opened_exit hNested
    rw [hEdits]
    show log.depth - 1 = _
    omega

/-! ### Runs -/

theorem extends_of_size (hKept : kept.Extends log) (hOld : old.Extends log)
    (hSize : kept.edits.size ≤ old.edits.size) : kept.Extends old :=
  List.prefix_of_prefix_length_le hKept hOld (by simpa using hSize)

/-- An edit leaves the logs with live marks as they are. -/
theorem live_of_extends (hLive : ∀ old ∈ live, old.Sound ∧ old.Extends log)
    (hNext : log.Extends next) : ∀ old ∈ live, old.Sound ∧ old.Extends next := by
  intro old hOld
  obtain ⟨hSound, hExtends⟩ := hLive old hOld
  exact ⟨hSound, hExtends.trans hNext⟩

/-- Along a run the log stays sound, and nothing of a log with a live mark is taken back. -/
theorem Reached.sound (h : Reached log live) :
    log.Sound ∧ ∀ old ∈ live, old.Sound ∧ old.Extends log := by
  induction h with
  | empty => exact ⟨sound_empty, by simp⟩
  | add h tree ih =>
    obtain ⟨hSound, hLive⟩ := ih
    exact ⟨hSound.add tree, live_of_extends hLive (extends_push _ _ _)⟩
  | enter h tree ih =>
    obtain ⟨hSound, hLive⟩ := ih
    exact ⟨hSound.enter tree, live_of_extends hLive (extends_push _ _ _)⟩
  | exit h hExit ih =>
    obtain ⟨hSound, hLive⟩ := ih
    exact ⟨hSound.exit hExit, live_of_extends hLive (extends_exit hExit)⟩
  | mark h ih =>
    obtain ⟨hSound, hLive⟩ := ih
    refine ⟨hSound, fun old hOld => ?_⟩
    rcases List.mem_cons.mp hOld with rfl | hOld
    · exact ⟨hSound, .refl _⟩
    · exact hLive old hOld
  | rollback h hOld hBack ih =>
    obtain ⟨-, hLive⟩ := ih
    obtain ⟨hSound, hExtends⟩ := hLive _ hOld
    rw [hExtends.rollback] at hBack
    cases hBack
    refine ⟨hSound, fun kept hKept => ?_⟩
    obtain ⟨hKept, hSize⟩ := List.mem_filter.mp hKept
    obtain ⟨hSound', hExtends'⟩ := hLive kept hKept
    exact ⟨hSound', extends_of_size hExtends' hExtends (by simpa using hSize)⟩

/-- Wherever a run comes to, the depth is the number of nodes entered and not exited, no node is
exited before it is entered, and going back to a live mark restores the log that was marked.  The
log builds the one tree whose outline is the root and below it the nodes added and entered, in
order, each one deeper than the nodes open when it came; and while the edits are replayed the open
node has around it as many nodes as are open, at an exit at least one. -/
theorem runs_build_their_edits (h : Reached log live) :
    log.depth = opened log.edits.toList ∧ Nested log.edits.toList ∧
      (∀ old ∈ live, log.rollback old.mark = .ok old) ∧
      (∀ tree : Tree, tree = log.build ↔
        tree.outline 0 = (0, .root, "") :: outlineAfter [] log.edits.toList) ∧
      ∀ before edit later, log.edits.toList = before ++ edit :: later →
        (draftOf before).around.length = opened before ∧ (edit = .exit → opened before ≠ 0) := by
  obtain ⟨hSound, hLive⟩ := h.sound
  have hOutline := outline_build log hSound.nested
  refine ⟨hSound.depth, hSound.nested, fun old hOld => (hLive old hOld).2.rollback, ?_, ?_⟩
  · intro tree
    constructor
    · rintro rfl
      exact hOutline
    · intro hTree
      exact Tree.outline_injective (hTree.trans hOutline.symm)
  · intro before edit later hEdits
    have hNested : Nested (before ++ [edit]) := by
      have hAll := hSound.nested
      rw [hEdits, List.append_cons] at hAll
      exact hAll.of_append
    refine ⟨length_around hNested.of_append, ?_⟩
    rintro rfl
    rw [opened_exit hNested]
    exact Nat.succ_ne_zero _

/-- A run that goes back twice, the second time behind a mark, and ends with a node open. -/
theorem run_with_open_node_builds :
    Reached ((empty.enter ⟨.select, "", [.leaf .string "a"]⟩).add (.leaf .int "1"))
        [empty.enter ⟨.select, "", [.leaf .string "a"]⟩] ∧
      ((empty.enter ⟨.select, "", [.leaf .string "a"]⟩).add (.leaf .int "1")).build =
        ⟨.root, "", [⟨.select, "", [.leaf .string "a", .leaf .int "1"]⟩]⟩ := by
  let select : Tree := ⟨.select, "", [.leaf .string "a"]⟩
  let closed : EditLog := ⟨#[.enter select, .add (.leaf .string "b"), .exit], 0⟩
  have hOpen : Reached (empty.enter select) [empty.enter select] := (Reached.empty.enter _).mark
  have hClosed : Reached closed [closed, empty.enter select] :=
    ((hOpen.add (.leaf .string "b")).exit rfl).mark
  have hShort : Reached closed [closed, empty.enter select] :=
    (hClosed.enter (.leaf .tableName "")).rollback List.mem_cons_self rfl
  have hBack : Reached (empty.enter select) [empty.enter select] :=
    hShort.rollback (List.mem_cons_of_mem _ List.mem_cons_self) rfl
  have hRun := hBack.add (.leaf .int "1")
  obtain ⟨-, -, -, hTree, -⟩ := runs_build_their_edits hRun
  exact ⟨hRun, ((hTree _).mpr rfl).symm⟩

end EditLog

end SqlReader
