import CodeCursor.Cursor.Kind
import CodeCursor.Naming.Declared
import CodeCursor.Options
import CodeCursor.Source.Slice
import CodeCursor.Tree.Place

/-!
# How nodes show in the cursor tree

A node below the root is shown as a cursor of some kind, is flattened so that what it holds
takes its place, or is hidden with everything below it.  Six rules hide or split nodes by where
they stand; the others are decided by the kind of the node, for most kinds by a table and for
the rest by what the node holds or where it stands.
-/

namespace CodeCursor

inductive Exposure where
  /-- The node is a cursor of this kind. -/
  | cursor (kind : CursorKind)
  /-- What the node holds takes its place. -/
  | flattened
  /-- Neither the node nor anything below it is shown. -/
  | hidden
deriving DecidableEq, Repr

/-- Whether the text of a number is that of a floating literal.  A hexadecimal one has a point
or a binary exponent, any other a point or a decimal exponent. -/
def isFloating (text : List Char) : Bool :=
  match text with
  | '0' :: 'x' :: _ | '0' :: 'X' :: _ => text.any fun c => c == '.' || c == 'p' || c == 'P'
  | _ => text.any fun c => c == '.' || c == 'e' || c == 'E'

namespace Node

/-- The kinds of nodes whose exposure depends on nothing else. -/
def fixedExposures : List (String × Exposure) :=
  [("translation_unit", .cursor .wholeUnit),
   ("parameter_declaration", .cursor .parmDecl),
   ("optional_parameter_declaration", .cursor .parmDecl),
   ("enumerator", .cursor .enumConstantDecl),
   ("type_definition", .cursor .typedefDecl),
   ("namespace_definition", .cursor .namespaceDecl),
   ("alias_declaration", .cursor .typeAliasDecl),
   ("using_declaration", .cursor .usingDeclaration),
   ("access_specifier", .cursor .cxxAccessSpecifier),
   ("type_parameter_declaration", .cursor .templateTypeParameter),
   ("protocol_declaration", .cursor .objCProtocolDecl),
   ("method_parameter", .cursor .parmDecl),
   ("property_declaration", .cursor .objCPropertyDecl),
   ("property_attributes_declaration", .hidden),
   ("type_identifier", .cursor .typeRef),
   ("template_type", .cursor .typeRef),
   ("namespace_identifier", .cursor .namespaceRef),
   ("template_function", .cursor .declRefExpr),
   ("field_identifier", .cursor .memberRefExpr),
   ("field_expression", .cursor .memberRefExpr),
   ("call_expression", .cursor .callExpr),
   ("message_expression", .cursor .objCMessageExpr),
   ("selector_expression", .cursor .objCSelectorExpr),
   ("concatenated_string", .cursor .stringLiteral),
   ("raw_string_literal", .cursor .stringLiteral),
   ("char_literal", .cursor .characterLiteral),
   ("true", .cursor .cxxBoolLiteralExpr),
   ("false", .cursor .cxxBoolLiteralExpr),
   ("null", .cursor .cxxNullPtrLiteralExpr),
   ("nullptr", .cursor .cxxNullPtrLiteralExpr),
   ("this", .cursor .cxxThisExpr),
   ("new_expression", .cursor .cxxNewExpr),
   ("delete_expression", .cursor .cxxDeleteExpr),
   ("lambda_expression", .cursor .lambdaExpr),
   ("parenthesized_expression", .cursor .parenExpr),
   ("unary_expression", .cursor .unaryOperator),
   ("update_expression", .cursor .unaryOperator),
   ("pointer_expression", .cursor .unaryOperator),
   ("binary_expression", .cursor .binaryOperator),
   ("conditional_expression", .cursor .conditionalOperator),
   ("subscript_expression", .cursor .arraySubscriptExpr),
   ("cast_expression", .cursor .cStyleCastExpr),
   ("initializer_list", .cursor .initListExpr),
   ("sizeof_expression", .cursor .unaryExpr),
   ("alignof_expression", .cursor .unaryExpr),
   ("compound_statement", .cursor .compoundStmt),
   ("if_statement", .cursor .ifStmt),
   ("switch_statement", .cursor .switchStmt),
   ("while_statement", .cursor .whileStmt),
   ("do_statement", .cursor .doStmt),
   ("for_statement", .cursor .forStmt),
   ("for_range_loop", .cursor .forStmt),
   ("goto_statement", .cursor .gotoStmt),
   ("labeled_statement", .cursor .labelStmt),
   ("continue_statement", .cursor .continueStmt),
   ("break_statement", .cursor .breakStmt),
   ("return_statement", .cursor .returnStmt),
   ("preproc_call", .hidden)]

/-- The exposure that the kind alone decides.  A kind without an entry is flattened. -/
def fixedExposure (n : Node) : Exposure :=
  (fixedExposures.lookup n.kind).getD .flattened

/-- A struct, union, enum or class specifier is a definition if it has a body, and refers to a
type otherwise. -/
def specifierKind (n : Node) (definition : CursorKind) : CursorKind :=
  if (n.childIn? "body").isSome then definition else .typeRef

/-- An assignment that also computes is told apart by its operator. -/
def assignmentKind (n : Node) : CursorKind :=
  match n.childIn? "operator" with
  | none => .binaryOperator
  | some operator => if operator.kind == "=" then .binaryOperator else .compoundAssignOperator

/-- A qualified name refers to a type if the name it ends in is that of a type. -/
def qualifiedKind (n : Node) : CursorKind :=
  if n.declaredNameKind? == some "type_identifier" ||
      n.declaredNameKind? == some "template_type" then .typeRef
  else .declRefExpr

/-- The kind for a node that begins with a given token, or the kind for one that does not. -/
def kindByToken (n : Node) (token : String) (yes no : CursorKind) : CursorKind :=
  if n.firstKind? == some token then yes else no

def directiveCursors : List (String × CursorKind) :=
  [("preproc_include", .inclusionDirective),
   ("preproc_def", .macroDefinition),
   ("preproc_function_def", .macroDefinition)]

/-- The kind of a directive that stands for itself, if the node is one. -/
def directiveKind? (n : Node) : Option CursorKind :=
  directiveCursors.lookup n.kind

def hasNamed (n : Node) (kind : String) : Bool :=
  (n.indexOfNamed? [kind]).isSome

end Node

namespace Place

def parentKind? (p : Place) : Option String :=
  p.parent?.map (·.node.kind)

def parentIs (p : Place) (kind : String) : Bool :=
  p.parentKind? == some kind

/-- Whether the place lies directly in the body of a class, or in a template that does. -/
def inClassBody (p : Place) : Bool :=
  p.parentIs "field_declaration_list" ||
    (p.parentIs "template_declaration" &&
      (p.parent?.any fun parent => parent.parentIs "field_declaration_list"))

def functionKind (p : Place) : CursorKind :=
  if p.node.declaredNameKind? == some "destructor_name" then .destructor
  else if p.inClassBody then .cxxMethod
  else .functionDecl

def identifierKind (p : Place) : CursorKind :=
  if p.parentIs "class_interface" || p.parentIs "class_implementation" then
    if p.node.inField "superclass" then .objCSuperClassRef else .objCClassRef
  else if p.parentIs "class_declaration" then .objCClassRef
  else if p.parentIs "protocol_reference_list" || p.parentIs "protocol_forward_declaration" then
    .objCProtocolRef
  else .declRefExpr

/-- The exposure of a declaration.  With a single declarator it is one cursor; with several the
declarators are the cursors, and with none there is nothing to show but what it holds. -/
def declarationExposure (p : Place) (function value : CursorKind) : Exposure :=
  if p.node.declaratorCount = 1 then
    .cursor (if p.node.declaresFunction then function else value)
  else .flattened

/-- The exposure of a place by the kind of its node, directives apart. -/
def plainExposure (source : Source) (p : Place) : Exposure :=
  match p.node.kind with
  | "function_definition" => .cursor p.functionKind
  | "declaration" => p.declarationExposure p.functionKind .varDecl
  | "field_declaration" => p.declarationExposure .cxxMethod .fieldDecl
  | "struct_specifier" => .cursor (p.node.specifierKind .structDecl)
  | "union_specifier" => .cursor (p.node.specifierKind .unionDecl)
  | "enum_specifier" => .cursor (p.node.specifierKind .enumDecl)
  | "class_specifier" => .cursor (p.node.specifierKind .classDecl)
  | "class_interface" =>
    .cursor (if p.node.isCategory then .objCCategoryDecl else .objCInterfaceDecl)
  | "class_implementation" =>
    .cursor (if p.node.isCategory then .objCCategoryImplDecl else .objCImplementationDecl)
  | "struct_declaration" =>
    if p.parentIs "instance_variable" then .cursor .objCIvarDecl else .flattened
  | "method_declaration" | "method_definition" =>
    .cursor (p.node.kindByToken "+" .objCClassMethodDecl .objCInstanceMethodDecl)
  | "property_implementation" =>
    .cursor (p.node.kindByToken "@synthesize" .objCSynthesizeDecl .objCDynamicDecl)
  | "qualified_identifier" => .cursor p.node.qualifiedKind
  | "identifier" => .cursor p.identifierKind
  | "number_literal" =>
    .cursor (if isFloating (source.slice p.node.label.start p.node.label.stop) then
      .floatingLiteral else .integerLiteral)
  | "string_literal" =>
    if p.parentIs "at_expression" then .hidden
    else .cursor (p.node.kindByToken "@" .objCStringLiteral .stringLiteral)
  | "at_expression" =>
    if p.node.hasNamed "string_literal" then .cursor .objCStringLiteral else .flattened
  | "assignment_expression" => .cursor p.node.assignmentKind
  | "case_statement" => .cursor (p.node.kindByToken "default" .defaultStmt .caseStmt)
  | _ => p.node.fixedExposure

/-- The exposure of a place by the kind of its node.  A directive shows only in a detailed
record. -/
def kindExposure (options : Options) (source : Source) (p : Place) : Exposure :=
  match p.node.directiveKind? with
  | some kind => if options.contains .preprocessingRecord then .cursor kind else .hidden
  | none => p.plainExposure source

/-- Whether the place holds the name by which its parent is spelled, so that it is not shown
again below the parent. -/
def namesParent (p : Place) : Bool :=
  match p.trail with
  | [] => false
  | crumb :: _ =>
    match crumb.parent.kind with
    | "field_expression" => p.node.inField "field"
    | "preproc_ifdef" | "preproc_elifdef" => p.node.inField "name"
    | "method_declaration" | "method_definition" | "keyword_declarator"
    | "selector_expression" | "method_identifier" => p.node.kind == "identifier"
    | "message_expression" => p.node.inField "method"
    | _ =>
      (crumb.parent.isDeclarator || crumb.parent.isName ||
        crumb.parent.isOneOf Node.declarationKinds ||
        crumb.parent.isOneOf Node.directiveKinds) &&
      crumb.parent.declaredName.map (·.path) == some [crumb.index]

/-- The exposure of one of several declarators of a parent. -/
def declaratorExposure (parent declarator : Node) : Exposure :=
  match parent.kind with
  | "declaration" => .cursor (if declarator.declaresFunction then .functionDecl else .varDecl)
  | "field_declaration" => .cursor (if declarator.declaresFunction then .cxxMethod else .fieldDecl)
  | _ => .flattened

/-- Whether the place is the body of a function or method definition. -/
def isBody (p : Place) : Bool :=
  p.node.kind == "compound_statement" &&
    (p.parent?.any fun parent => parent.node.isOneOf Node.definitionKinds)

/-- Whether the place is the condition of a preprocessor directive. -/
def isCondition (p : Place) : Bool :=
  p.node.inField "condition" &&
    (p.parent?.any fun parent => Text.beginsWith parent.node.kind "preproc_")

/-- How a place shows in the cursor tree.  The root always shows as the source unit. -/
def exposure (options : Options) (source : Source) (p : Place) : Exposure :=
  match p.trail with
  | [] => .cursor .wholeUnit
  | crumb :: _ =>
    if !p.node.label.named || p.node.label.missing then .hidden
    else if p.node.kind == "comment" || crumb.parent.isOneOf Node.directiveKinds then .hidden
    else if options.contains .skipBodies && p.isBody then .hidden
    else if p.isCondition then .hidden
    else if p.node.inField "declarator" && decide (1 < crumb.parent.declaratorCount) then
      declaratorExposure crumb.parent p.node
    else if p.node.isName && p.namesParent then .hidden
    else p.kindExposure options source

end Place

end CodeCursor
