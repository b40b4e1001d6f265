import CodeCursor.Options

/-!
# Why there is no source unit

The causes for which an index refuses to make a source unit, or a list of arguments is
refused.  That a grammar cannot be loaded is not among them.  It happens with a grammar that was
built for another version of the parser, and the grammars of the dialects are linked in together
with the parser.
-/

namespace CodeCursor

/-- A cause for which no source unit is made. -/
inductive SetupError where
  /-- The path or the language name tells no dialect. -/
  | unsupportedLanguage (subject : String)
  /-- The options hold a flag without a meaning. -/
  | invalidOptions (options : Options)
  /-- The argument has no meaning here, or lacks its value. -/
  | invalidArgument (argument : String)
  | aborted (path : String)
deriving DecidableEq, Repr

def SetupError.message : SetupError → String
  | unsupportedLanguage subject => "Cannot determine the language of '" ++ subject ++ "'"
  | invalidOptions options => "Invalid creation options: " ++ Options.hexText options.bits
  | invalidArgument argument => "Unsupported compiler argument '" ++ argument ++ "'"
  | aborted path => "Parsing of '" ++ path ++ "' was aborted"

end CodeCursor
