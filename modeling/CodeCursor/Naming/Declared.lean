import CodeCursor.Naming.Kinds

/-!
# Declared names

The node that holds the name which a declaration introduces, or by which a reference refers.
Declarators are written around the name, so the search goes inwards: each kind of node says
which child to go on with, and only a node without such a child is searched from its first
child on.
-/

namespace CodeCursor

/-- A node found below another one, with the child indices that lead there. -/
structure Descendant where
  path : List Nat
  node : Node

/-- The same node seen from the parent, of which the starting point is the child with the given
index. -/
def Descendant.under (index : Nat) (d : Descendant) : Descendant :=
  ⟨index :: d.path, d.node⟩

/-- Where a node keeps its name. -/
inductive NameRule where
  /-- The node is a name. -/
  | itself
  /-- Its name is the name of the child with this index; without the child it has none. -/
  | nameOf (index : Option Nat)
  /-- Its name is the child with this index; without the child it has none. -/
  | child (index : Option Nat)
  /-- Its name is that of its first child which can name it and has a name. -/
  | firstNamed
deriving DecidableEq, Repr

namespace Node

def indexIn? (n : Node) (field : String) : Option Nat :=
  n.children.findIdx? (·.inField field)

/-- The index of the first child that is more than a token and of one of the given kinds. -/
def indexOfNamed? (n : Node) (kinds : List String) : Option Nat :=
  n.children.findIdx? fun child => child.label.named && child.isOneOf kinds

/-- Whether a class header has a parenthesis, and so is for a category or a class extension. -/
def isCategory (n : Node) : Bool :=
  n.isOneOf classHeaderKinds && n.children.any (·.kind == "(")

def nameRule (n : Node) : NameRule :=
  if n.isOneOf simpleNameKinds then .itself
  else if n.isOneOf composedNameKinds then .nameOf (n.indexIn? "name")
  else if n.isCategory then .child (n.indexIn? "category")
  else if n.kind == "property_declaration" then
    .nameOf (n.indexOfNamed? ["struct_declaration", "atomic_declaration"])
  else if n.kind == "struct_declaration" then .nameOf (n.indexOfNamed? ["struct_declarator"])
  else if n.kind == "atomic_declaration" then .child (n.indexOfNamed? ["field_identifier"])
  else
    match (n.indexIn? "declarator").or (n.indexIn? "name") with
    | some index => .nameOf (some index)
    | none => .firstNamed

/-- Whether a child can give its name to a parent that has no field for it. -/
def canName (child : Node) : Bool :=
  child.label.named && !child.inField "type" && (child.isName || child.isDeclarator)

mutual
def declaredName : Node → Option Descendant
  | node label children =>
    match (node label children).nameRule with
    | .itself => some ⟨[], node label children⟩
    | .nameOf none => none
    | .nameOf (some index) => (declaredNameAt children index).map (·.under index)
    | .child index => index.bind fun i => children[i]?.map (⟨[i], ·⟩)
    | .firstNamed => firstDeclaredName 0 children

def declaredNameAt : List Node → Nat → Option Descendant
  | [], _ => none
  | child :: _, 0 => child.declaredName
  | _ :: rest, index + 1 => declaredNameAt rest index

/-- The declared name of the first child that can give one and has one.  The children are
counted from the given index. -/
def firstDeclaredName (index : Nat) : List Node → Option Descendant
  | [] => none
  | child :: rest =>
    if child.canName then
      match child.declaredName with
      | some found => some (found.under index)
      | none => firstDeclaredName (index + 1) rest
    else firstDeclaredName (index + 1) rest
end

def declaredNameKind? (n : Node) : Option String :=
  n.declaredName.map (·.node.kind)

/-- The number of children that are declarators of the node. -/
def declaratorCount (n : Node) : Nat :=
  n.children.countP (·.inField "declarator")

mutual
/-- Whether a function declarator lies on the way inwards through the first declarators. -/
def declaresFunction : Node → Bool
  | node label children => label.kind == "function_declarator" || anyFunctionIn children

def anyFunctionIn : List Node → Bool
  | [] => false
  | child :: rest =>
    if child.inField "declarator" then child.declaresFunction else anyFunctionIn rest
end

end Node

end CodeCursor
