import CodeCursor.Tree.Node

/-!
# Trees as rows

A tree written as a list of its nodes, each before its children and with its depth below the
root.  Reading such a list from its end, the trees that directly follow a row and lie deeper are
exactly the children of that row's node.
-/

namespace CodeCursor.Node

/-- A node's depth below the root and its label. -/
abbrev Row := Nat × Label

mutual
/-- The rows of a tree whose root has the given depth. -/
def rows (depth : Nat) : Node → List Row
  | node label children => (depth, label) :: rowsAll (depth + 1) children

def rowsAll (depth : Nat) : List Node → List Row
  | [] => []
  | n :: rest => n.rows depth ++ rowsAll depth rest
end

/-- Puts a row before trees that are already read.  The leading ones that lie deeper become the
children of its node. -/
def adopt (row : Row) (trees : List (Nat × Node)) : List (Nat × Node) :=
  let deeper : Nat × Node → Bool := fun tree => decide (row.1 < tree.1)
  (row.1, node row.2 ((trees.takeWhile deeper).map (·.2))) :: trees.dropWhile deeper

/-- The tree that a list of rows describes, if it describes a single one. -/
def ofRows? (rows : List Row) : Option Node :=
  match rows.foldr adopt [] with
  | [(_, n)] => some n
  | _ => none

private theorem takeWhile_deeper (depth : Nat) (children : List Node)
    (rest : List (Nat × Node)) (h : ∀ tree ∈ rest.head?, tree.1 ≤ depth) :
    ((children.map (depth + 1, ·)) ++ rest).takeWhile (fun tree => decide (depth < tree.1)) =
      children.map (depth + 1, ·) := by
  induction children with
  | nil => cases rest <;> simp_all
  | cons n children ih => simpa using ih

private theorem dropWhile_deeper (depth : Nat) (children : List Node)
    (rest : List (Nat × Node)) (h : ∀ tree ∈ rest.head?, tree.1 ≤ depth) :
    ((children.map (depth + 1, ·)) ++ rest).dropWhile (fun tree => decide (depth < tree.1)) =
      rest := by
  induction children with
  | nil => cases rest <;> simp_all
  | cons n children ih => simpa using ih

mutual
/-- Reading the rows of a tree gives the tree back, in front of trees that lie no deeper. -/
theorem foldr_adopt_rows (n : Node) (depth : Nat) (rest : List (Nat × Node))
    (h : ∀ tree ∈ rest.head?, tree.1 ≤ depth) :
    (n.rows depth).foldr adopt rest = (depth, n) :: rest := by
  cases n with
  | node label children =>
    have below := foldr_adopt_rowsAll children (depth + 1) rest
      fun tree mem => Nat.le_succ_of_le (h tree mem)
    simp only [rows, List.foldr_cons, below, adopt]
    rw [takeWhile_deeper depth children rest h, dropWhile_deeper depth children rest h]
    simp [Function.comp_def]

theorem foldr_adopt_rowsAll (trees : List Node) (depth : Nat) (rest : List (Nat × Node))
    (h : ∀ tree ∈ rest.head?, tree.1 ≤ depth) :
    (rowsAll depth trees).foldr adopt rest = trees.map (depth, ·) ++ rest := by
  cases trees with
  | nil => rfl
  | cons n others =>
    have after := foldr_adopt_rowsAll others depth rest h
    simp only [rowsAll, List.foldr_append, after]
    rw [foldr_adopt_rows n depth]
    · rfl
    · cases others <;> simp_all
end

/-- Rows lose nothing of the tree. -/
theorem ofRows?_rows (n : Node) (depth : Nat) : ofRows? (n.rows depth) = some n := by
  rw [ofRows?, foldr_adopt_rows n depth [] (by simp)]

end CodeCursor.Node
