import CodeCursor.Tree.Node

/-!
# Places in a tree

A node together with the way to it from the root: the parent and the index among its children,
then the same for the parent, and so on up to the root.  Two places of one tree are the same
exactly when their paths are.
-/

namespace CodeCursor

/-- One step of the way to a node: the parent, and the node's index among its children. -/
structure Crumb where
  parent : Node
  index : Nat

/-- A node and the way to it, the nearest parent first. -/
structure Place where
  node : Node
  trail : List Crumb

namespace Place

def root (tree : Node) : Place := ⟨tree, []⟩

/-- The child indices that lead from the root to the place. -/
def path (p : Place) : List Nat :=
  (p.trail.map Crumb.index).reverse

def parent? (p : Place) : Option Place :=
  match p.trail with
  | [] => none
  | crumb :: trail => some ⟨crumb.parent, trail⟩

/-- The child of the place with a given index, as a node that is handed in. -/
def below (p : Place) (index : Nat) (child : Node) : Place :=
  ⟨child, ⟨p.node, index⟩ :: p.trail⟩

def child? (p : Place) (index : Nat) : Option Place :=
  p.node.children[index]?.map (p.below index)

/-- The siblings before the place, the nearest first.  Tokens and comments are among them. -/
def earlierSiblings (p : Place) : List Node :=
  match p.trail with
  | [] => []
  | crumb :: _ => (crumb.parent.children.take crumb.index).reverse

/-- Each crumb of the trail tells the truth about the tree. -/
inductive In (tree : Node) : Place → Prop
  | root : In tree (root tree)
  | child {p : Place} {index : Nat} {child : Node} (parent : In tree p)
      (found : p.node.children[index]? = some child) : In tree (p.below index child)

@[simp] theorem node_below (p : Place) (index : Nat) (child : Node) :
    (p.below index child).node = child := rfl

@[simp] theorem path_root (tree : Node) : (root tree).path = [] := rfl

@[simp] theorem path_below (p : Place) (index : Nat) (child : Node) :
    (p.below index child).path = p.path ++ [index] := by
  simp [path, below]

theorem In.at?_path {tree : Node} {p : Place} (h : In tree p) :
    tree.at? p.path = some p.node := by
  induction h with
  | root => rfl
  | child _ found ih =>
    rw [path_below, Node.at?_append, ih]
    simp [Node.at?, found]

end Place

end CodeCursor
