import SqlReader.Proofs.EditLog.Growth
import Mathlib.Data.List.Induction

/-! The tree that a log builds, read off the log: its outline is that of the nodes added and
entered, in the order of the edits, each below the nodes that were open when it came. -/

namespace SqlReader

/-- The tree that an edit puts into the open node. -/
def Edit.tree? : Edit → Option Tree
  | add tree | enter tree => some tree
  | exit => none

namespace EditLog

/-! ### Open nodes -/

/-- The number of nodes entered. -/
def entered (edits : List Edit) : Nat := edits.countP fun
  | .enter _ => true
  | .add _ | .exit => false

/-- The number of nodes exited. -/
def exited (edits : List Edit) : Nat := edits.countP fun
  | .exit => true
  | .add _ | .enter _ => false

/-- The number of nodes entered and not exited. -/
def opened (edits : List Edit) : Nat := entered edits - exited edits

/-- No node is exited before it is entered. -/
def Nested (edits : List Edit) : Prop := ∀ before, before <+: edits → exited before ≤ entered before

variable {edits before later : List Edit} {edit : Edit} {tree : Tree}

theorem entered_append (before later : List Edit) :
    entered (before ++ later) = entered before + entered later := List.countP_append

theorem exited_append (before later : List Edit) :
    exited (before ++ later) = exited before + exited later := List.countP_append

theorem Nested.of_append (h : Nested (before ++ later)) : Nested before := fun first hFirst =>
  h first (hFirst.trans (List.prefix_append before later))

theorem nested_append_singleton (hNested : Nested edits)
    (h : exited (edits ++ [edit]) ≤ entered (edits ++ [edit])) : Nested (edits ++ [edit]) := by
  intro first hFirst
  rcases List.prefix_concat_iff.mp hFirst with rfl | hFirst
  · exact h
  · exact hNested first hFirst

@[simp] theorem opened_add (edits : List Edit) (tree : Tree) :
    opened (edits ++ [.add tree]) = opened edits := by
  rw [opened, entered_append, exited_append]
  rfl

theorem opened_enter (h : Nested edits) (tree : Tree) :
    opened (edits ++ [.enter tree]) = opened edits + 1 := by
  have hLe := h edits List.prefix_rfl
  have hEntered : entered [.enter tree] = 1 := rfl
  have hExited : exited [.enter tree] = 0 := rfl
  rw [opened, opened, entered_append, exited_append, hEntered, hExited]
  omega

/-- An exit closes a node that is open. -/
theorem opened_exit (h : Nested (edits ++ [.exit])) :
    opened edits = opened (edits ++ [.exit]) + 1 := by
  have hLe := h _ List.prefix_rfl
  have hEntered : entered [.exit] = 0 := rfl
  have hExited : exited [.exit] = 1 := rfl
  rw [entered_append, exited_append, hEntered, hExited] at hLe
  rw [opened, opened, entered_append, exited_append, hEntered, hExited]
  omega

/-! ### The draft -/

/-- The draft that the edits build. -/
def draftOf (edits : List Edit) : Draft := edits.foldl Draft.apply .start

theorem draft_eq_draftOf (log : EditLog) : log.draft = draftOf log.edits.toList := by
  rw [draft, draftOf, Array.foldl_toList]

theorem draftOf_append (edits : List Edit) (edit : Edit) :
    draftOf (edits ++ [edit]) = (draftOf edits).apply edit := by
  rw [draftOf, draftOf, List.foldl_append, List.foldl_cons, List.foldl_nil]

/-- The open node of the draft has as many nodes around it as are open below the root, and the
root. -/
theorem length_around (h : Nested edits) : (draftOf edits).around.length = opened edits := by
  induction edits using List.reverseRecOn with
  | nil => rfl
  | append_singleton edits edit ih =>
    have hAround := ih h.of_append
    rw [draftOf_append]
    cases hDraft : draftOf edits with
    | mk node around =>
    rw [hDraft] at hAround
    cases edit with
    | add tree => rw [opened_add, ← hAround]; rfl
    | enter tree => rw [opened_enter h.of_append, ← hAround]; rfl
    | exit =>
      have hOpen := opened_exit h
      cases around with
      | nil => rw [← hAround, List.length_nil] at hOpen; omega
      | cons parent around =>
        rw [List.length_cons] at hAround
        show around.length = _
        omega

/-! ### The outline -/

namespace Draft

/-- The outline of nodes one inside the other, given from the inside out. -/
def spine : List Tree → List (Nat × NodeKind × String)
  | [] => []
  | tree :: around => spine around ++ tree.outline around.length

/-- The outline of the nodes around the open node, then that of the open node. -/
def outline (draft : Draft) : List (Nat × NodeKind × String) :=
  spine (draft.node :: draft.around)

/-- Closing a node into its parent leaves every node where it is. -/
theorem spine_push (node parent : Tree) (around : List Tree) :
    spine (parent.push node :: around) = spine (node :: parent :: around) := by
  rw [spine, spine, spine, Tree.outline_push, List.append_assoc, List.length_cons]

theorem outline_close (draft : Draft) : draft.close.outline 0 = draft.outline := by
  obtain ⟨node, around⟩ := draft
  show (around.foldl (fun node parent => parent.push node) node).outline 0 = spine (node :: around)
  induction around generalizing node with
  | nil => rfl
  | cons parent around ih => rw [List.foldl_cons, ih, spine_push]

theorem outline_add (draft : Draft) (tree : Tree) : (draft.apply (.add tree)).outline =
    draft.outline ++ tree.outline (draft.around.length + 1) := by
  show spine (draft.node.push tree :: draft.around) = _
  rw [spine_push, spine, List.length_cons]
  rfl

theorem outline_enter (draft : Draft) (tree : Tree) : (draft.apply (.enter tree)).outline =
    draft.outline ++ tree.outline (draft.around.length + 1) := rfl

theorem outline_exit (draft : Draft) : (draft.apply .exit).outline = draft.outline := by
  match draft with
  | ⟨node, []⟩ => rfl
  | ⟨node, parent :: around⟩ => exact spine_push node parent around

theorem outline_apply (draft : Draft) (edit : Edit) : (draft.apply edit).outline =
    draft.outline ++ edit.tree?.elim [] (·.outline (draft.around.length + 1)) := by
  cases edit with
  | add tree => exact draft.outline_add tree
  | enter tree => exact draft.outline_enter tree
  | exit => rw [outline_exit]; exact (List.append_nil _).symm

end Draft

/-- The outlines of the nodes that the edits put below a root, in the order of the edits, each one
deeper than the nodes open when it comes; `before` are the edits before these. -/
def outlineAfter (before : List Edit) : List Edit → List (Nat × NodeKind × String)
  | [] => []
  | edit :: later =>
    edit.tree?.elim [] (·.outline (opened before + 1)) ++ outlineAfter (before ++ [edit]) later

theorem outlineAfter_append (before edits later : List Edit) :
    outlineAfter before (edits ++ later) =
      outlineAfter before edits ++ outlineAfter (before ++ edits) later := by
  induction edits generalizing before with
  | nil => rw [List.append_nil]; rfl
  | cons edit edits ih =>
    rw [List.cons_append, outlineAfter, outlineAfter, ih, List.append_assoc, List.append_assoc,
      List.singleton_append]

/-- The tree of the edits is the root with their nodes below it. -/
theorem outline_draftOf (h : Nested edits) :
    (draftOf edits).outline = (0, .root, "") :: outlineAfter [] edits := by
  induction edits using List.reverseRecOn with
  | nil => rfl
  | append_singleton edits edit ih =>
    rw [draftOf_append, Draft.outline_apply, ih h.of_append, length_around h.of_append,
      outlineAfter_append, List.nil_append, List.cons_append, outlineAfter, outlineAfter,
      List.append_nil]

theorem outline_build (log : EditLog) (h : Nested log.edits.toList) :
    log.build.outline 0 = (0, .root, "") :: outlineAfter [] log.edits.toList := by
  rw [build_eq, Draft.outline_close, draft_eq_draftOf, outline_draftOf h]

end EditLog

end SqlReader
