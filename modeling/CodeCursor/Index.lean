import CodeCursor.Settings
import CodeCursor.SourceUnit

/-!
# Indexes

An index makes source units.  It keeps its settings and one parser for each dialect that it
has needed so far.  How a parser turns text into a tree is not settled here: an engine is handed
in, which may give up.
-/

namespace CodeCursor

/-- A parser: the grammar it is set up with, how long a parse may take, and the text of a parse
that was given up and waits to be resumed. -/
structure Parser where
  grammar : Grammar
  timeoutMicros : Option UInt64
  suspended : Option (List Char)
deriving DecidableEq, Repr

/-- How a parser turns a text into a tree.  There is no tree when it gives up.  A parse that waits
to be resumed may show in the tree of another text. -/
abbrev Engine := Parser → List Char → Option Node

namespace Parser

def fresh (dialect : Dialect) (settings : Settings) : Parser :=
  ⟨dialect.grammar, settings.timeoutMicros, none⟩

/-- Parses a text.  A parse that is given up is left to be resumed. -/
def run (engine : Engine) (parser : Parser) (text : List Char) : Option Node × Parser :=
  match engine parser text with
  | some tree => (some tree, { parser with suspended := none })
  | none => (none, { parser with suspended := some text })

def reset (parser : Parser) : Parser :=
  { parser with suspended := none }

end Parser

/-- The settings, the language that they fix, and the parsers made so far. -/
structure Index where
  settings : Settings
  language : Option Dialect
  parsers : List (Dialect × Parser)
deriving DecidableEq, Repr

/-- What a parse gives: the unit, and the warnings that it logs. -/
structure ParsedUnit where
  unit : SourceUnit
  warnings : List String

namespace Index

def standard : Index := ⟨.standard, none, []⟩

/-- An index with the given settings, unless their arguments are refused. -/
def ofSettings (settings : Settings) : Except SetupError Index :=
  settings.language.map fun language => ⟨settings, language, []⟩

/-- The dialect of a source: the one that the settings fix, or else the one of the path. -/
def dialectOf (index : Index) (path : String) : Except SetupError Dialect :=
  match index.language with
  | some dialect => .ok dialect
  | none =>
    match Dialect.ofPath? path with
    | some dialect => .ok dialect
    | none => .error (.unsupportedLanguage path)

/-- The parser for a dialect: the one kept, or a fresh one.  A fresh one can always be set up, as
each dialect has a grammar that the parser loads. -/
def parserFor (index : Index) (dialect : Dialect) : Parser :=
  (index.parsers.lookup dialect).getD (.fresh dialect index.settings)

/-- The index with a parser kept for a dialect in place of any other. -/
def keep (index : Index) (dialect : Dialect) (parser : Parser) : Index :=
  { index with parsers := (dialect, parser) :: index.parsers.filter (·.1 != dialect) }

/-- The warnings of a unit, one for each diagnostic if the settings ask for them. -/
def warningsOf (index : Index) (u : SourceUnit) : List String :=
  if index.settings.displayDiagnostics then
    u.diagnostics.map fun d => u.spelling ++ ": " ++ d.display
  else []

/-- Makes a source unit of a text that is bound to a path.  The options are checked first,
then the dialect, and only then the text is parsed. -/
def parse (engine : Engine) (index : Index) (path text : String) (options : Options) :
    Except SetupError ParsedUnit × Index :=
  if !options.isValid then (.error (.invalidOptions options), index)
  else
    match index.dialectOf path with
    | .error e => (.error e, index)
    | .ok dialect =>
      let source := Source.ofString text
      match (index.parserFor dialect).run engine source.chars with
      | (none, parser) => (.error (.aborted path), index.keep dialect parser.reset)
      | (some tree, parser) =>
        let u : SourceUnit := ⟨path, dialect, source, tree, options⟩
        (.ok ⟨u, index.warningsOf u⟩, index.keep dialect parser)

end Index

end CodeCursor
