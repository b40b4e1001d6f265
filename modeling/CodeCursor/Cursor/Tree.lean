import CodeCursor.Cursor.Basic

/-!
# Cursor trees

All cursors from a given one down, as a tree.  The tree is built along the syntax tree, and a
small argument shows that its branches are the children of its cursors at every depth.
-/

namespace CodeCursor

inductive CursorTree where
  | branch (cursor : Cursor) (branches : List CursorTree)

namespace CursorTree

def cursor : CursorTree → Cursor
  | branch cursor _ => cursor

def branches : CursorTree → List CursorTree
  | branch _ branches => branches

mutual
/-- The cursors of the tree with their depths, each before its children.  The top has the given
depth. -/
def outline (depth : Nat) : CursorTree → List (Nat × Cursor)
  | branch cursor branches => (depth, cursor) :: outlineAll (depth + 1) branches

def outlineAll (depth : Nat) : List CursorTree → List (Nat × Cursor)
  | [] => []
  | tree :: rest => tree.outline depth ++ outlineAll depth rest
end

end CursorTree

namespace SourceUnit

mutual
/-- The trees of the cursors that a node contributes to the nearest cursor above it. -/
def treesAt (u : SourceUnit) (trail : List Crumb) : Node → List CursorTree
  | .node label children =>
    let n := Node.node label children
    match u.exposure ⟨n, trail⟩ with
    | .cursor kind => [.branch ⟨u, ⟨n, trail⟩, kind⟩ (u.treesAmong n trail 0 children)]
    | .flattened => u.treesAmong n trail 0 children
    | .hidden => []

def treesAmong (u : SourceUnit) (parent : Node) (trail : List Crumb) (index : Nat) :
    List Node → List CursorTree
  | [] => []
  | child :: rest =>
    u.treesAt (⟨parent, index⟩ :: trail) child ++ u.treesAmong parent trail (index + 1) rest
end

end SourceUnit

namespace Cursor

def tree (c : Cursor) : CursorTree :=
  .branch c (c.unit.treesAmong c.place.node c.place.trail 0 c.place.node.children)

/-- The cursors below this one, each before its children and with its depth below this one. -/
def descendants (c : Cursor) : List (Nat × Cursor) :=
  CursorTree.outlineAll 1 c.tree.branches

end Cursor

mutual
private theorem SourceUnit.treesAt_eq (u : SourceUnit) (trail : List Crumb) (n : Node) :
    u.treesAt trail n = (u.cursorsAt trail n).map Cursor.tree := by
  cases n with
  | node label children =>
    have among := SourceUnit.treesAmong_eq u (.node label children) trail 0 children
    simp only [SourceUnit.treesAt, SourceUnit.cursorsAt]
    cases u.exposure ⟨.node label children, trail⟩ with
    | cursor kind => simp [Cursor.tree]
    | flattened => exact among
    | hidden => rfl

theorem SourceUnit.treesAmong_eq (u : SourceUnit) (parent : Node) (trail : List Crumb)
    (index : Nat) (children : List Node) :
    u.treesAmong parent trail index children =
      (u.cursorsAmong parent trail index children).map Cursor.tree := by
  cases children with
  | nil => rfl
  | cons child rest =>
    simp only [SourceUnit.treesAmong, SourceUnit.cursorsAmong, List.map_append]
    rw [SourceUnit.treesAt_eq u _ child, SourceUnit.treesAmong_eq u parent trail _ rest]
end

theorem Cursor.tree_eq (c : Cursor) : c.tree = .branch c (c.children.map Cursor.tree) := by
  rw [Cursor.tree, SourceUnit.treesAmong_eq, Cursor.children]

end CodeCursor
