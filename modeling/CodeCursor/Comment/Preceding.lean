import CodeCursor.Comment.Brief
import CodeCursor.Cursor.Basic

/-!
# Comments of declarations

A declaration carries the comments right before it: the last of them ends on the line where the
declaration begins or on the line before, and each other one ends so before the next.
-/

namespace CodeCursor

namespace SourceUnit

/-- The comments at the head of a list of siblings, the nearest first, that are attached to what
begins on the given line. -/
def attached (u : SourceUnit) (line : Nat) : List Node → List Node
  | [] => []
  | sibling :: rest =>
    let extent := u.extentOf sibling
    if sibling.kind == "comment" && decide (line ≤ extent.stop.line + 1) then
      sibling :: u.attached extent.start.line rest
    else []

end SourceUnit

namespace Cursor

/-- The place before which the comments of the cursor stand.  What a template is about is
commented before the template. -/
def commentAnchor (c : Cursor) : Place :=
  match c.place.parent? with
  | none => c.place
  | some parent => if parent.node.kind == "template_declaration" then parent else c.place

def comments (c : Cursor) : List Node :=
  let anchor := c.commentAnchor
  (c.unit.attached (c.unit.extentOf anchor.node).start.line anchor.earlierSiblings).reverse

/-- The text of the comments that a declaration carries, one per line, if the options ask for
comments and there is one. -/
def rawComment? (c : Cursor) : Option (List Char) :=
  if c.unit.options.contains .briefComments && c.isDeclaration then
    match c.comments with
    | [] => none
    | comments => some (['\n'].intercalate (comments.map c.unit.textOf))
  else none

def briefComment? (c : Cursor) : Option (List Char) :=
  c.rawComment?.bind Comment.brief?

end Cursor

end CodeCursor
