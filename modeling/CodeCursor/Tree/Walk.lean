import CodeCursor.Tree.Place

/-!
# Walking over a tree

The moves of a walker that stands at one node of a tree at a time: down to the first child, on to
the next sibling, and up to the parent.  A walker that is done with a node and all below it
climbs until there is a next sibling.  Each move to a new node leaves fewer nodes ahead, so a walk
that never goes back ends.
-/

namespace CodeCursor.Place

def firstChild? (p : Place) : Option Place :=
  p.child? 0

/-- The sibling right after the place. -/
def nextSibling? (p : Place) : Option Place :=
  match p.trail with
  | [] => none
  | crumb :: trail => (⟨crumb.parent, trail⟩ : Place).child? (crumb.index + 1)

/-- Climbs from a node, to which the given trail leads, until there is a next sibling. -/
def climb (n : Node) : List Crumb → Option Place
  | [] => none
  | crumb :: trail =>
    match nextSibling? ⟨n, crumb :: trail⟩ with
    | some sibling => some sibling
    | none => climb crumb.parent trail

/-- Where a walker goes that is done with the place and everything below it: to the next sibling,
or else on from the parent.  From the root there is nowhere to go. -/
def onward? (p : Place) : Option Place :=
  climb p.node p.trail

/-- Where a walker goes from the place: to the first child if the place is to be entered and there
is a child, and else onward. -/
def next? (enter : Bool) (p : Place) : Option Place :=
  match if enter then p.firstChild? else none with
  | some child => some child
  | none => p.onward?

theorem nextSibling?_cons (n : Node) (crumb : Crumb) (trail : List Crumb) :
    nextSibling? ⟨n, crumb :: trail⟩ =
      (⟨crumb.parent, trail⟩ : Place).child? (crumb.index + 1) := rfl

/-- The number of nodes that come after a node and all below it, when this is the way to it. -/
def sizeAfter : List Crumb → Nat
  | [] => 0
  | crumb :: trail =>
    Node.sizeAll (crumb.parent.children.drop (crumb.index + 1)) + sizeAfter trail

def sizeFrom (p : Place) : Nat :=
  p.node.size + sizeAfter p.trail

theorem sizeFrom_child? {p q : Place} {index : Nat} (h : p.child? index = some q) :
    q.sizeFrom = Node.sizeAll (p.node.children.drop index) + sizeAfter p.trail := by
  obtain ⟨n, hn, rfl⟩ := Option.map_eq_some_iff.1 h
  obtain ⟨hlt, rfl⟩ := List.getElem?_eq_some_iff.1 hn
  rw [List.drop_eq_getElem_cons hlt]
  simp only [sizeFrom, below, sizeAfter, Node.sizeAll]
  omega

theorem sizeFrom_firstChild? {p child : Place} (h : p.firstChild? = some child) :
    child.sizeFrom < p.sizeFrom := by
  rw [sizeFrom_child? h, sizeFrom]
  cases p.node with
  | node label children =>
    simp only [Node.children_node, List.drop_zero, Node.size]
    omega

theorem sizeFrom_climb {n : Node} {trail : List Crumb} {next : Place}
    (h : climb n trail = some next) : next.sizeFrom ≤ sizeAfter trail := by
  induction trail generalizing n with
  | nil => simp [climb] at h
  | cons crumb trail ih =>
    rw [climb] at h
    split at h
    · rename_i sibling hs
      cases h
      exact Nat.le_of_eq (sizeFrom_child? hs)
    · exact Nat.le_trans (ih h) (Nat.le_add_left _ _)

theorem sizeFrom_onward? {p next : Place} (h : p.onward? = some next) :
    next.sizeFrom < p.sizeFrom := by
  have hpos := p.node.size_pos
  have hle := sizeFrom_climb h
  simp only [sizeFrom] at *
  omega

/-- A move leaves fewer nodes ahead. -/
theorem sizeFrom_next? {enter : Bool} {p next : Place} (h : p.next? enter = some next) :
    next.sizeFrom < p.sizeFrom := by
  unfold next? at h
  split at h
  · rename_i child hc
    cases h
    split at hc
    · exact sizeFrom_firstChild? hc
    · simp at hc
  · exact sizeFrom_onward? h

end CodeCursor.Place
