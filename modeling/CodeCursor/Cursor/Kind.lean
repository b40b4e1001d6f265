/-!
# Kinds of cursors

What a cursor stands for, and the five classes into which most kinds fall.
-/

namespace CodeCursor

/-- What a cursor stands for. -/
inductive CursorKind where
  | wholeUnit
  | structDecl
  | unionDecl
  | classDecl
  | enumDecl
  | fieldDecl
  | enumConstantDecl
  | functionDecl
  | varDecl
  | parmDecl
  | typedefDecl
  | cxxMethod
  | destructor
  | namespaceDecl
  | templateTypeParameter
  | typeAliasDecl
  | usingDeclaration
  | cxxAccessSpecifier
  | objCInterfaceDecl
  | objCCategoryDecl
  | objCProtocolDecl
  | objCPropertyDecl
  | objCInstanceMethodDecl
  | objCClassMethodDecl
  | objCImplementationDecl
  | objCCategoryImplDecl
  | objCIvarDecl
  | objCSynthesizeDecl
  | objCDynamicDecl
  | typeRef
  | namespaceRef
  | memberRefExpr
  | declRefExpr
  | objCSuperClassRef
  | objCClassRef
  | objCProtocolRef
  | callExpr
  | objCMessageExpr
  | objCSelectorExpr
  | integerLiteral
  | floatingLiteral
  | stringLiteral
  | characterLiteral
  | objCStringLiteral
  | cxxBoolLiteralExpr
  | cxxNullPtrLiteralExpr
  | cxxThisExpr
  | cxxNewExpr
  | cxxDeleteExpr
  | lambdaExpr
  | parenExpr
  | unaryOperator
  | binaryOperator
  | compoundAssignOperator
  | conditionalOperator
  | arraySubscriptExpr
  | cStyleCastExpr
  | initListExpr
  | unaryExpr
  | compoundStmt
  | ifStmt
  | switchStmt
  | caseStmt
  | defaultStmt
  | whileStmt
  | doStmt
  | forStmt
  | gotoStmt
  | labelStmt
  | continueStmt
  | breakStmt
  | returnStmt
  | macroDefinition
  | inclusionDirective
deriving DecidableEq, Repr

/-- The classes of kinds.  No kind belongs to two of them, and expressions other than references
and literals belong to none. -/
inductive Category where
  | declaration
  | reference
  | literal
  | statement
  | preprocessing
deriving DecidableEq, Repr

namespace CursorKind

def name : CursorKind → String
  | wholeUnit => "TranslationUnit"
  | structDecl => "StructDecl"
  | unionDecl => "UnionDecl"
  | classDecl => "ClassDecl"
  | enumDecl => "EnumDecl"
  | fieldDecl => "FieldDecl"
  | enumConstantDecl => "EnumConstantDecl"
  | functionDecl => "FunctionDecl"
  | varDecl => "VarDecl"
  | parmDecl => "ParmDecl"
  | typedefDecl => "TypedefDecl"
  | cxxMethod => "CXXMethod"
  | destructor => "Destructor"
  | namespaceDecl => "Namespace"
  | templateTypeParameter => "TemplateTypeParameter"
  | typeAliasDecl => "TypeAliasDecl"
  | usingDeclaration => "UsingDeclaration"
  | cxxAccessSpecifier => "CXXAccessSpecifier"
  | objCInterfaceDecl => "ObjCInterfaceDecl"
  | objCCategoryDecl => "ObjCCategoryDecl"
  | objCProtocolDecl => "ObjCProtocolDecl"
  | objCPropertyDecl => "ObjCPropertyDecl"
  | objCInstanceMethodDecl => "ObjCInstanceMethodDecl"
  | objCClassMethodDecl => "ObjCClassMethodDecl"
  | objCImplementationDecl => "ObjCImplementationDecl"
  | objCCategoryImplDecl => "ObjCCategoryImplDecl"
  | objCIvarDecl => "ObjCIvarDecl"
  | objCSynthesizeDecl => "ObjCSynthesizeDecl"
  | objCDynamicDecl => "ObjCDynamicDecl"
  | typeRef => "TypeRef"
  | namespaceRef => "NamespaceRef"
  | memberRefExpr => "MemberRefExpr"
  | declRefExpr => "DeclRefExpr"
  | objCSuperClassRef => "ObjCSuperClassRef"
  | objCClassRef => "ObjCClassRef"
  | objCProtocolRef => "ObjCProtocolRef"
  | callExpr => "CallExpr"
  | objCMessageExpr => "ObjCMessageExpr"
  | objCSelectorExpr => "ObjCSelectorExpr"
  | integerLiteral => "IntegerLiteral"
  | floatingLiteral => "FloatingLiteral"
  | stringLiteral => "StringLiteral"
  | characterLiteral => "CharacterLiteral"
  | objCStringLiteral => "ObjCStringLiteral"
  | cxxBoolLiteralExpr => "CXXBoolLiteralExpr"
  | cxxNullPtrLiteralExpr => "CXXNullPtrLiteralExpr"
  | cxxThisExpr => "CXXThisExpr"
  | cxxNewExpr => "CXXNewExpr"
  | cxxDeleteExpr => "CXXDeleteExpr"
  | lambdaExpr => "LambdaExpr"
  | parenExpr => "ParenExpr"
  | unaryOperator => "UnaryOperator"
  | binaryOperator => "BinaryOperator"
  | compoundAssignOperator => "CompoundAssignOperator"
  | conditionalOperator => "ConditionalOperator"
  | arraySubscriptExpr => "ArraySubscriptExpr"
  | cStyleCastExpr => "CStyleCastExpr"
  | initListExpr => "InitListExpr"
  | unaryExpr => "UnaryExpr"
  | compoundStmt => "CompoundStmt"
  | ifStmt => "IfStmt"
  | switchStmt => "SwitchStmt"
  | caseStmt => "CaseStmt"
  | defaultStmt => "DefaultStmt"
  | whileStmt => "WhileStmt"
  | doStmt => "DoStmt"
  | forStmt => "ForStmt"
  | gotoStmt => "GotoStmt"
  | labelStmt => "LabelStmt"
  | continueStmt => "ContinueStmt"
  | breakStmt => "BreakStmt"
  | returnStmt => "ReturnStmt"
  | macroDefinition => "MacroDefinition"
  | inclusionDirective => "InclusionDirective"

def category? : CursorKind → Option Category
  | structDecl | unionDecl | classDecl | enumDecl | fieldDecl | enumConstantDecl | functionDecl
    | varDecl | parmDecl | typedefDecl | cxxMethod | destructor | namespaceDecl
    | templateTypeParameter | typeAliasDecl | usingDeclaration | cxxAccessSpecifier
    | objCInterfaceDecl | objCCategoryDecl | objCProtocolDecl | objCPropertyDecl
    | objCInstanceMethodDecl | objCClassMethodDecl | objCImplementationDecl
    | objCCategoryImplDecl | objCIvarDecl | objCSynthesizeDecl | objCDynamicDecl =>
    some .declaration
  | typeRef | namespaceRef | memberRefExpr | declRefExpr | objCSuperClassRef | objCClassRef
    | objCProtocolRef =>
    some .reference
  | integerLiteral | floatingLiteral | stringLiteral | characterLiteral | objCStringLiteral
    | cxxBoolLiteralExpr | cxxNullPtrLiteralExpr =>
    some .literal
  | compoundStmt | ifStmt | switchStmt | caseStmt | defaultStmt | whileStmt | doStmt | forStmt
    | gotoStmt | labelStmt | continueStmt | breakStmt | returnStmt =>
    some .statement
  | macroDefinition | inclusionDirective =>
    some .preprocessing
  | _ => none

def isDeclaration (k : CursorKind) : Bool := k.category? == some .declaration

def isIn (k : CursorKind) (c : Category) : Bool := k.category? == some c

end CursorKind

end CodeCursor
