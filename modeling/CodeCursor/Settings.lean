import CodeCursor.Dialect
import CodeCursor.SetupError
import CodeCursor.Text.Affix
import CodeCursor.Toml.Value

/-!
# Settings

The settings of an index: arguments as a compiler takes them, whether diagnostics are logged, and
how long a parse may take.  The arguments can fix the language; all others that are allowed have
no effect.
-/

namespace CodeCursor

structure Settings where
  arguments : List String
  displayDiagnostics : Bool
  timeoutMicros : Option UInt64
deriving DecidableEq, Repr

namespace Settings

def standard : Settings := ⟨[], false, none⟩

/-- Beginnings of arguments that are allowed and have no effect. -/
def ignoredOpenings : List String := ["-D", "-I", "-W", "-f", "-std="]

/-- The dialect that a language name after `-x` stands for. -/
def namedDialect (name : String) : Except SetupError Dialect :=
  match Dialect.ofCompilerName? name with
  | some dialect => .ok dialect
  | none => .error (.unsupportedLanguage name)

/-- The language that arguments fix, if any, when `found` is what the arguments before them fix.
They are read from left to right, and the last language wins. -/
def languageAfter (found : Option Dialect) :
    List String → Except SetupError (Option Dialect)
  | [] => .ok found
  | argument :: rest =>
    if argument = "-x" then
      match rest with
      | [] => .error (.invalidArgument argument)
      | name :: rest =>
        match namedDialect name with
        | .ok dialect => languageAfter (some dialect) rest
        | .error e => .error e
    else if Text.beginsWith argument "-x" then
      match namedDialect (String.ofList (argument.toList.drop 2)) with
      | .ok dialect => languageAfter (some dialect) rest
      | .error e => .error e
    else if ignoredOpenings.any (Text.beginsWith argument ·) then languageAfter found rest
    else .error (.invalidArgument argument)

def language (s : Settings) : Except SetupError (Option Dialect) :=
  languageAfter none s.arguments

def keys : List String := ["arguments", "display_diagnostics", "timeout_micros"]

/-- The value of a key, read by the given function, or a value to take if the key is not there.
There is none if the value cannot be read. -/
def valueOf? {α : Type} (table : Toml.Table) (key : String) (read : Toml.Value → Option α)
    (otherwise : α) : Option α :=
  match table.entries.lookup key with
  | none => some otherwise
  | some value => read value

/-- The settings that a table holds, if it has no other keys and each value is of the right
form. -/
def ofTable? (table : Toml.Table) : Option Settings := do
  if table.entries.all fun entry => keys.contains entry.1 then
    let arguments ← valueOf? table "arguments" (·.strings?) standard.arguments
    let displayDiagnostics ←
      valueOf? table "display_diagnostics" (·.boolean?) standard.displayDiagnostics
    let timeoutMicros ←
      valueOf? table "timeout_micros" (·.unsigned?.map some) standard.timeoutMicros
    some ⟨arguments, displayDiagnostics, timeoutMicros⟩
  else none

/-- The settings that a document holds, when documents are read as tables in the given way.  There
are none if the document is malformed: it gives no table, or its table holds no settings. -/
def ofToml? (read : String → Option Toml.Table) (document : String) : Option Settings :=
  (read document).bind ofTable?

end Settings

end CodeCursor
