import SqlReader.Tree

/-! A log of edits that build a tree below a root.  The log grows at its end, and everything after
a mark can be taken back; the tree is built from the edits that remain. -/

namespace SqlReader

inductive Edit where
  /-- Appends a tree to the open node. -/
  | add (tree : Tree)
  /-- Appends a tree to the open node and opens it. -/
  | enter (tree : Tree)
  /-- Opens the parent of the open node again. -/
  | exit
  deriving DecidableEq, Repr

/-- A use of the log against its rules. -/
inductive Violation where
  | exitAtRoot
  /-- The mark lies beyond the end of the log. -/
  | markBeyondLog (mark edits : Nat)
  deriving DecidableEq, Repr

def Violation.message : Violation → String
  | exitAtRoot => "exit_node called while the root node is open"
  | markBeyondLog mark edits =>
    "rollback to mark " ++ toString mark ++ " beyond log of " ++ toString edits ++ " edits"

/-- `depth` is the number of nodes that are open below the root. -/
structure EditLog where
  edits : Array Edit
  depth : Nat
  deriving DecidableEq, Repr

namespace EditLog

/-- The length and the depth of a log. -/
structure Mark where
  length : Nat
  depth : Nat
  deriving DecidableEq, Repr

def empty : EditLog := ⟨#[], 0⟩

def add (log : EditLog) (tree : Tree) : EditLog := { log with edits := log.edits.push (.add tree) }

def enter (log : EditLog) (tree : Tree) : EditLog :=
  ⟨log.edits.push (.enter tree), log.depth + 1⟩

def exit (log : EditLog) : Except Violation EditLog :=
  if log.depth = 0 then .error .exitAtRoot
  else .ok ⟨log.edits.push .exit, log.depth - 1⟩

def mark (log : EditLog) : Mark := ⟨log.edits.size, log.depth⟩

/-- Takes back every edit after the mark. -/
def rollback (log : EditLog) (mark : Mark) : Except Violation EditLog :=
  if mark.length ≤ log.edits.size then .ok ⟨log.edits.take mark.length, mark.depth⟩
  else .error (.markBeyondLog mark.length log.edits.size)

/-- A tree under construction: the open node and the nodes around it, the innermost first. -/
structure Draft where
  node : Tree
  around : List Tree
  deriving DecidableEq, Repr

namespace Draft

def start : Draft := ⟨.bareRoot, []⟩

/-- The draft after an edit.  Where only the root is open there is nothing to exit. -/
def apply : Draft → Edit → Draft
  | ⟨node, around⟩, .add tree => ⟨node.push tree, around⟩
  | ⟨node, around⟩, .enter tree => ⟨tree, node :: around⟩
  | ⟨node, parent :: around⟩, .exit => ⟨parent.push node, around⟩
  | draft@⟨_, []⟩, .exit => draft

/-- The tree in which every open node is closed into its parent. -/
def close (draft : Draft) : Tree :=
  draft.around.foldl (fun node parent => parent.push node) draft.node

end Draft

/-- The tree that the edits build. -/
def build (log : EditLog) : Tree := (log.edits.foldl Draft.apply Draft.start).close

end EditLog

end SqlReader
