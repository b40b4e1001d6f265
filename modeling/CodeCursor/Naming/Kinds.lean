import CodeCursor.Text.Affix
import CodeCursor.Tree.Node

/-!
# Kinds of nodes that name or declare

The grammars' words for names, for declarations and for preprocessor directives.
-/

namespace CodeCursor.Node

def simpleNameKinds : List String :=
  ["identifier", "field_identifier", "type_identifier", "namespace_identifier", "operator_name",
   "destructor_name"]

/-- Names that hold the name they end in under the field `name`, beside a scope or template
arguments. -/
def composedNameKinds : List String :=
  ["qualified_identifier", "template_function", "template_method", "template_type"]

def nameKinds : List String :=
  simpleNameKinds ++ composedNameKinds

def declarationKinds : List String :=
  ["function_definition", "declaration", "field_declaration", "parameter_declaration",
   "optional_parameter_declaration", "struct_specifier", "union_specifier", "enum_specifier",
   "class_specifier", "enumerator", "type_definition", "namespace_definition",
   "alias_declaration", "type_parameter_declaration", "init_declarator", "class_interface",
   "protocol_declaration", "class_implementation", "method_declaration", "method_definition",
   "method_parameter", "property_declaration", "property_implementation"]

/-- The preprocessor directives that stand for themselves, with nothing below them shown. -/
def directiveKinds : List String :=
  ["preproc_include", "preproc_def", "preproc_function_def"]

def classHeaderKinds : List String :=
  ["class_interface", "class_implementation"]

/-- Definitions that can have a body to skip. -/
def definitionKinds : List String :=
  ["function_definition", "method_definition"]

def isName (n : Node) : Bool :=
  n.isOneOf nameKinds

/-- Whether the node is one of the wrappers that are written around a declared name. -/
def isDeclarator (n : Node) : Bool :=
  Text.endsIn n.kind "_declarator"

end CodeCursor.Node
