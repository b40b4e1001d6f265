import CodeCursor.Text.Blank
import CodeCursor.Text.Lines

/-!
# The gist of a comment

A comment is reduced to its first paragraph: the signs that make it a comment are taken from
each line, and the lines up to the next empty one are joined.
-/

namespace CodeCursor.Comment

/-- What a line of a comment can begin with.  The longer ones come before those that they begin
with. -/
def openers : List (List Char) :=
  ["/**<".toList, "/**".toList, "/*!".toList, "/*".toList, "///<".toList, "///".toList,
   "//!".toList, "//".toList]

def withoutOpener (text : List Char) : List Char :=
  (openers.findSome? (·.isPrefixOf? text)).getD text

/-- The text without the sign that ends a comment, if it ends in that. -/
def withoutCloser (text : List Char) : List Char :=
  match text.reverse with
  | '/' :: '*' :: rest => rest.reverse
  | _ => text

/-- What a line of a comment says, without the signs around it. -/
def content (line : List Char) : List Char :=
  Text.trim ((withoutOpener (withoutCloser (Text.trim line))).dropWhile (· == '*'))

/-- The first lines that say something, up to one that does not. -/
def firstParagraph (comment : List Char) : List (List Char) :=
  (((Text.lines comment).map content).dropWhile List.isEmpty).takeWhile (!·.isEmpty)

def brief? (comment : List Char) : Option (List Char) :=
  match firstParagraph comment with
  | [] => none
  | paragraph => some ([' '].intercalate paragraph)

end CodeCursor.Comment
