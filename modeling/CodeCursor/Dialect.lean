import CodeCursor.Text.FileName

/-!
# Dialects

The languages a source unit can be written in, their names and the file name extensions
that belong to them.
-/

namespace CodeCursor

inductive Dialect where
  | c
  | cpp
  | objC
  | objCpp
deriving DecidableEq, Repr

/-- The grammars by which sources are read. -/
inductive Grammar where
  | c
  | cpp
  | objC
deriving DecidableEq, Repr

namespace Dialect

def all : List Dialect := [c, cpp, objC, objCpp]

/-- The grammar of the dialect.  Objective-C++ has none of its own and is read as Objective-C. -/
def grammar : Dialect → Grammar
  | c => .c
  | cpp => .cpp
  | objC | objCpp => .objC

def shortName : Dialect → String
  | c => "C"
  | cpp => "Cpp"
  | objC => "ObjC"
  | objCpp => "ObjCpp"

/-- The dialect's name as compilers take it. -/
def languageName : Dialect → String
  | c => "c"
  | cpp => "c++"
  | objC => "objective-c"
  | objCpp => "objective-c++"

def ofLanguageName? (name : String) : Option Dialect :=
  all.find? (·.languageName == name)

/-- The dialect that a compiler takes the given name for: a language name, or one followed by
`-header`. -/
def ofCompilerName? (name : String) : Option Dialect :=
  all.find? fun dialect =>
    name == dialect.languageName || name == dialect.languageName ++ "-header"

/-- The extensions of file names, with case. -/
def extensions : List (String × Dialect) :=
  [("c", c), ("h", c), ("cc", cpp), ("cp", cpp), ("cpp", cpp), ("cxx", cpp), ("c++", cpp),
   ("hh", cpp), ("hpp", cpp), ("hxx", cpp), ("m", objC), ("mm", objCpp)]

def ofPath? (path : String) : Option Dialect :=
  (Text.extension? path.toList).bind fun extension =>
    extensions.lookup (String.ofList extension)

end Dialect

end CodeCursor
