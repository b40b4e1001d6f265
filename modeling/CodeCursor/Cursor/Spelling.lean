import CodeCursor.Cursor.Basic
import CodeCursor.Cursor.Selector
import CodeCursor.Text.Alphabetic

/-!
# Spellings

The spelling of a cursor is the name it introduces or refers to, or the text of a literal.
Statements and most expressions have none.  Names are closed up: blanks inside an operator's or
a destructor's name and inside a reference to a type do not show, except between the words of an
operator that is written with letters.
-/

namespace CodeCursor

/-- The name of an operator function, from its text.  An operator written with letters keeps one
space between its words and after `operator`; any other is written without blanks. -/
def operatorName (text : List Char) : List Char :=
  let keyword := "operator".toList
  let operator := Text.trim (Text.dropRepeated keyword text)
  if operator.head?.any Text.isAlphabetic then keyword ++ ' ' :: Text.spaced operator
  else keyword ++ Text.compact operator

/-- The word before the name when a type is referred to as a struct, union, enum or class. -/
def specifierWord? (kind : String) : Option String :=
  [("struct_specifier", "struct"), ("union_specifier", "union"), ("enum_specifier", "enum"),
   ("class_specifier", "class")].lookup kind

namespace SourceUnit

def spellName (u : SourceUnit) (name : Node) : List Char :=
  match name.kind with
  | "operator_name" => operatorName (u.textOf name)
  | "destructor_name" => Text.compact (u.textOf name)
  | _ => u.textOf name

/-- The spelled declared name of a node, empty without one. -/
def spellDeclared (u : SourceUnit) (n : Node) : List Char :=
  match n.declaredName with
  | none => []
  | some found => u.spellName found.node

def textIn (u : SourceUnit) (n : Node) (field : String) : List Char :=
  match n.childIn? field with
  | none => []
  | some child => u.textOf child

def spellType (u : SourceUnit) (n : Node) : List Char :=
  match specifierWord? n.kind with
  | none => Text.compact (u.textOf n)
  | some word =>
    match n.declaredName with
    | none => word.toList
    | some found => word.toList ++ ' ' :: u.spellName found.node

/-- A reference to a member: the field of an access, or the name by itself. -/
def spellMember (u : SourceUnit) (n : Node) : List Char :=
  match n.childIn? "field" with
  | some field => u.textOf field
  | none => if n.kind == "field_identifier" then u.textOf n else []

/-- The node that names what a call calls: the field of a member access, or the declared name of
a name. -/
def calleeName? (function : Node) : Option Node :=
  if function.kind == "field_expression" then function.childIn? "field"
  else if function.isName then function.declaredName.map (·.node)
  else none

/-- A call is spelled like the name of what it calls. -/
def spellCall (u : SourceUnit) (n : Node) : List Char :=
  match (n.childIn? "function").bind calleeName? with
  | none => []
  | some name => u.spellName name

/-- The path of an inclusion without its quotes or angle brackets. -/
def spellInclusion (u : SourceUnit) (n : Node) : List Char :=
  Text.trimOf (fun c => c == '"' || c == '<' || c == '>') (u.textIn n "path")

def spell (u : SourceUnit) (n : Node) (kind : CursorKind) : List Char :=
  match kind with
  | .wholeUnit => u.spelling.toList
  | .objCInstanceMethodDecl | .objCClassMethodDecl => u.declaredSelector n
  | .cxxAccessSpecifier => []
  | .typeRef => u.spellType n
  | .namespaceRef | .declRefExpr => u.spellDeclared n
  | .memberRefExpr => u.spellMember n
  | .callExpr => u.spellCall n
  | .objCSuperClassRef | .objCClassRef | .objCProtocolRef => u.textOf n
  | .objCMessageExpr => u.sentSelector n
  | .objCSelectorExpr => quotedSelector (u.textOf n)
  | .macroDefinition => u.textIn n "name"
  | .inclusionDirective => u.spellInclusion n
  | _ =>
    match kind.category? with
    | some .declaration => u.spellDeclared n
    | some .literal => u.textOf n
    | _ => []

end SourceUnit

namespace Cursor

def spelling (c : Cursor) : String :=
  String.ofList (c.unit.spell c.place.node c.kind)

/-- The cursor as text: its kind, its quoted spelling and where it begins. -/
def describe (c : Cursor) : String :=
  c.kind.name ++ " " ++ String.ofList (Text.quoted c.spelling.toList) ++ " at " ++
    c.location.display

end Cursor

end CodeCursor
