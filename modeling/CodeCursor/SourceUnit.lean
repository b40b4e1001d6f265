import CodeCursor.Diagnostic
import CodeCursor.Dialect
import CodeCursor.Options

/-!
# Source units

A source unit is a source that has been parsed: the path it is bound to, its dialect, its
text and tree, and the options under which it is looked at.
-/

namespace CodeCursor

/-- A parsed source.  The path need not belong to a file. -/
structure SourceUnit where
  path : String
  dialect : Dialect
  source : Source
  tree : Node
  options : Options

namespace SourceUnit

/-- The path, which also names the unit's root cursor. -/
def spelling (u : SourceUnit) : String := u.path

def diagnostics (u : SourceUnit) : List Diagnostic :=
  Diagnostic.all u.source u.tree

def hasErrors (u : SourceUnit) : Bool :=
  u.diagnostics.any (·.severity == .error)

/-- The unit's path, dialect, options and number of diagnostics as text. -/
def describe (u : SourceUnit) : String :=
  "TranslationUnit \x7b path: " ++ String.ofList (Text.quoted u.path.toList) ++
    ", dialect: " ++ u.dialect.shortName ++
    ", options: " ++ u.options.describe ++
    ", diagnostics: " ++ toString u.diagnostics.length ++ " \x7d"

def textOf (u : SourceUnit) (n : Node) : List Char :=
  u.source.slice n.label.start n.label.stop

def extentOf (u : SourceUnit) (n : Node) : Extent :=
  ⟨u.source.locate n.label.start, u.source.locate n.label.stop⟩

end SourceUnit

end CodeCursor
