import CodeCursor.Text.Affix
import CodeCursor.Text.Blank
import CodeCursor.SourceUnit

/-!
# Selectors

The selector of an Objective-C method, read from its declaration, from a message that is sent and
from a quoted selector.  A selector with parameters is its keywords, each followed by a colon; one
without is a single word.
-/

namespace CodeCursor

/-- What is read of a method declaration so far: the word that no parameter has taken yet, and
the keywords in order. -/
structure SelectorParts where
  pending : Option (List Char)
  keywords : List (List Char)
deriving DecidableEq, Repr

def SelectorParts.selector (parts : SelectorParts) : List Char :=
  if parts.keywords.isEmpty then parts.pending.getD []
  else parts.keywords.flatMap (· ++ [':'])

/-- The text of a quoted selector without its keyword, parentheses and blanks. -/
def quotedSelector (text : List Char) : List Char :=
  Text.compact (Text.trimOf (fun c => c == '(' || c == ')')
    (Text.trim (Text.dropRepeated "@selector".toList text)))

namespace SourceUnit

/-- The keyword that a parameter brings along, when it begins with a word and a colon. -/
def ownKeyword? (u : SourceUnit) (parameter : Node) : Option (List Char) :=
  match parameter.children with
  | word :: colon :: _ =>
    if word.kind == "identifier" && colon.kind == ":" then some (u.textOf word) else none
  | _ => none

/-- Adds one child of a method declaration to the parts.  A word waits for the parameter after
it, and a parameter takes its own keyword or else the word that waits. -/
def addSelectorPart (u : SourceUnit) (parts : SelectorParts) (child : Node) : SelectorParts :=
  match child.kind with
  | "identifier" => { parts with pending := some (u.textOf child) }
  | "method_parameter" | "keyword_declarator" =>
    match u.ownKeyword? child with
    | some keyword => { parts with keywords := parts.keywords ++ [keyword] }
    | none => ⟨none, parts.keywords ++ [parts.pending.getD []]⟩
  | _ => parts

def declaredSelector (u : SourceUnit) (method : Node) : List Char :=
  (method.namedChildren.foldl u.addSelectorPart ⟨none, []⟩).selector

/-- The selector of a message: the texts of its words and its colons in order. -/
def sentSelector (u : SourceUnit) (message : Node) : List Char :=
  message.children.flatMap fun child =>
    if child.inField "method" then u.textOf child
    else if child.kind == ":" then [':']
    else []

end SourceUnit

end CodeCursor
