/-! Syntax trees: ordered trees whose nodes have a kind and a value. -/

namespace SqlReader

inductive NodeKind where
  | root
  | select
  | insert
  | tableName
  | columns
  | values
  /-- A column of a named table; the children are the table, then the column. -/
  | qualifiedName
  | string
  | int
  deriving DecidableEq, Repr

def NodeKind.name : NodeKind → String
  | root => "Root"
  | select => "Select"
  | insert => "Insert"
  | tableName => "TableName"
  | columns => "Columns"
  | values => "Values"
  | qualifiedName => "QualifiedName"
  | string => "String"
  | int => "Int"

structure Tree where
  kind : NodeKind
  value : String
  children : List Tree
  deriving Repr

namespace Tree

def leaf (kind : NodeKind) (value : String) : Tree := ⟨kind, value, []⟩

/-- A root without children. -/
def bareRoot : Tree := leaf .root ""

/-- The tree with one more child, the last. -/
def push (tree child : Tree) : Tree := { tree with children := tree.children ++ [child] }

def childValues (tree : Tree) : List String := tree.children.map Tree.value

mutual

def decideEq : (a b : Tree) → Decidable (a = b)
  | ⟨kind, value, children⟩, ⟨kind', value', children'⟩ =>
    if hKind : kind = kind' then
      if hValue : value = value' then
        match decideEqAll children children' with
        | isTrue hChildren => isTrue (by rw [hKind, hValue, hChildren])
        | isFalse hChildren => isFalse fun h => hChildren (by cases h; rfl)
      else isFalse fun h => hValue (by cases h; rfl)
    else isFalse fun h => hKind (by cases h; rfl)

def decideEqAll : (as bs : List Tree) → Decidable (as = bs)
  | [], [] => isTrue rfl
  | [], _ :: _ => isFalse nofun
  | _ :: _, [] => isFalse nofun
  | a :: as, b :: bs =>
    match decideEq a b, decideEqAll as bs with
    | isTrue hHead, isTrue hTail => isTrue (by rw [hHead, hTail])
    | isFalse hHead, _ => isFalse fun h => hHead (by cases h; rfl)
    | _, isFalse hTail => isFalse fun h => hTail (by cases h; rfl)

end

instance : DecidableEq Tree := decideEq

mutual

/-- The tree on one line: the kind, then the value in parentheses unless it is empty, then the
children in brackets if there are any. -/
def render : Tree → String
  | ⟨kind, value, children⟩ =>
    kind.name ++ (if value.isEmpty then "" else "(" ++ value ++ ")") ++
      (if children.isEmpty then "" else "[" ++ ", ".intercalate (renderAll children) ++ "]")

def renderAll : List Tree → List String
  | [] => []
  | child :: rest => render child :: renderAll rest

end

mutual

/-- The nodes in pre-order, each with its depth, where the root of the tree has the given one. -/
def outline (depth : Nat) : Tree → List (Nat × NodeKind × String)
  | ⟨kind, value, children⟩ => (depth, kind, value) :: outlineAll (depth + 1) children

def outlineAll (depth : Nat) : List Tree → List (Nat × NodeKind × String)
  | [] => []
  | child :: rest => outline depth child ++ outlineAll depth rest

end

theorem outlineAll_eq_flatMap (depth : Nat) (trees : List Tree) :
    outlineAll depth trees = trees.flatMap (outline depth) := by
  induction trees with
  | nil => rfl
  | cons tree rest ih => rw [outlineAll, ih, List.flatMap_cons]

/-- A new last child comes last in the outline. -/
theorem outline_push (depth : Nat) (tree child : Tree) :
    (tree.push child).outline depth = tree.outline depth ++ child.outline (depth + 1) := by
  obtain ⟨kind, value, children⟩ := tree
  simp [push, outline, outlineAll_eq_flatMap]

end Tree

end SqlReader
