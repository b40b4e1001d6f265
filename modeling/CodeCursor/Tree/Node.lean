/-!
# Syntax trees

A syntax tree as a parser hands it over.  A node has a label and its children in source order.
The label of a child also holds the name of the field under which its parent keeps it.
Nodes that stand for tokens are in the tree like all others; they are the unnamed ones.
-/

namespace CodeCursor

/-- What a parser says of one node, its children apart. -/
structure Label where
  /-- The grammar's word for the node.  For a token it is often the token itself. -/
  kind : String
  /-- The field of the parent that holds the node. -/
  field : Option String
  /-- Whether the node is more than a token. -/
  named : Bool
  /-- Whether the node is text that the grammar could not place. -/
  error : Bool
  /-- Whether the node was put in where the grammar asked for it and the text had none. -/
  missing : Bool
  /-- Whether the node or one below it is an error or missing. -/
  hasError : Bool
  start : Nat
  stop : Nat
deriving DecidableEq, Repr

inductive Node where
  | node (label : Label) (children : List Node)

namespace Node

def label : Node → Label
  | node label _ => label

/-- The children in source order, tokens and comments included. -/
def children : Node → List Node
  | node _ children => children

def kind (n : Node) : String := n.label.kind

def field (n : Node) : Option String := n.label.field

@[simp] theorem label_node (l : Label) (cs : List Node) : (node l cs).label = l := rfl
@[simp] theorem children_node (l : Label) (cs : List Node) : (node l cs).children = cs := rfl

def inField (n : Node) (name : String) : Bool :=
  n.field == some name

def isOneOf (n : Node) (kinds : List String) : Bool :=
  kinds.contains n.kind

theorem isOneOf_eq_true_iff {n : Node} {kinds : List String} :
    n.isOneOf kinds = true ↔ n.kind ∈ kinds :=
  List.contains_iff_mem

theorem isOneOf_mono {n : Node} {kinds others : List String} (h : n.isOneOf kinds = true)
    (hsub : kinds ⊆ others) : n.isOneOf others = true :=
  isOneOf_eq_true_iff.2 (hsub (isOneOf_eq_true_iff.1 h))

theorem isOneOf_eq_false {n : Node} {kinds others : List String} (h : n.isOneOf kinds = true)
    (hdisjoint : ∀ kind ∈ kinds, others.contains kind = false) : n.isOneOf others = false :=
  hdisjoint n.kind (isOneOf_eq_true_iff.1 h)

/-- The first child held under a field of the given name. -/
def childIn? (n : Node) (name : String) : Option Node :=
  n.children.find? (·.inField name)

/-- The children that are more than tokens. -/
def namedChildren (n : Node) : List Node :=
  n.children.filter (·.label.named)

def firstKind? (n : Node) : Option String :=
  n.children.head?.map kind

/-- The node reached by a list of child indices, each counted from zero. -/
def at? (n : Node) : List Nat → Option Node
  | [] => some n
  | i :: path => n.children[i]?.bind (·.at? path)

mutual
def size : Node → Nat
  | node _ children => sizeAll children + 1

def sizeAll : List Node → Nat
  | [] => 0
  | n :: rest => n.size + sizeAll rest
end

theorem size_pos (n : Node) : 0 < n.size := by
  cases n
  exact Nat.succ_pos _

theorem size_le_sizeAll {n : Node} {nodes : List Node} (h : n ∈ nodes) :
    n.size ≤ sizeAll nodes := by
  induction nodes with
  | nil => simp at h
  | cons m rest ih =>
    rw [sizeAll]
    rcases List.mem_cons.1 h with rfl | h
    · exact Nat.le_add_right _ _
    · exact Nat.le_trans (ih h) (Nat.le_add_left _ _)

theorem size_lt_of_mem {n child : Node} (h : child ∈ n.children) : child.size < n.size := by
  cases n
  exact Nat.lt_succ_of_le (size_le_sizeAll h)

theorem at?_append (n : Node) (path more : List Nat) :
    n.at? (path ++ more) = (n.at? path).bind (·.at? more) := by
  induction path generalizing n with
  | nil => rfl
  | cons i path ih =>
    simp only [List.cons_append, at?]
    cases n.children[i]? <;> simp [ih]

end Node

end CodeCursor
