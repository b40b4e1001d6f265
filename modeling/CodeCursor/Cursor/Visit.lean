import CodeCursor.Cursor.Spelling
import CodeCursor.Cursor.Tree

/-!
# Visits

A visit hands the cursors below a given one to a visitor, each before its children.  The visitor
says of each what comes next, and may keep a record of what it has seen.
-/

namespace CodeCursor

/-- What a visit does after a cursor. -/
inductive Verdict where
  /-- The visit ends. -/
  | stop
  /-- The visit goes on after everything below the cursor. -/
  | skip
  /-- The visit goes on with the children of the cursor. -/
  | enter
deriving DecidableEq, Repr

/-- A visitor with a record: it is handed a cursor and the cursor's parent, and answers with what
comes next and the new record. -/
abbrev Visitor (Record : Type) := Record → Cursor → Cursor → Verdict × Record

namespace CursorTree

mutual
/-- Visits a tree that lies directly below `parent`.  The answer says whether the visitor ended
the visit, and gives the last record. -/
def visit {Record : Type} (visitor : Visitor Record) (parent : Cursor) (record : Record) :
    CursorTree → Bool × Record
  | branch cursor branches =>
    match visitor record cursor parent with
    | (.stop, record) => (true, record)
    | (.skip, record) => (false, record)
    | (.enter, record) => visitAll visitor cursor record branches

def visitAll {Record : Type} (visitor : Visitor Record) (parent : Cursor) (record : Record) :
    List CursorTree → Bool × Record
  | [] => (false, record)
  | tree :: rest =>
    match tree.visit visitor parent record with
    | (true, record) => (true, record)
    | (false, record) => visitAll visitor parent record rest
end

end CursorTree

namespace Cursor

def visit {Record : Type} (c : Cursor) (visitor : Visitor Record) (record : Record) :
    Bool × Record :=
  CursorTree.visitAll visitor c record c.tree.branches

/-- A visitor that ends the visit at a cursor with the given spelling and records that cursor. -/
def finder (spelling : String) : Visitor (Option Cursor) := fun found cursor _ =>
  if cursor.spelling = spelling then (.stop, some cursor) else (.enter, found)

def find? (c : Cursor) (spelling : String) : Option Cursor :=
  (c.visit (finder spelling) none).2

end Cursor

/-- A rule for what comes after a cursor.  What it does not name it does not ask for. -/
structure VisitRule where
  kind : Option String
  spelling : Option String
  verdict : Verdict
deriving DecidableEq, Repr

namespace VisitRule

def applies (rule : VisitRule) (c : Cursor) : Bool :=
  (rule.kind.all (· == c.kind.name)) && (rule.spelling.all (· == c.spelling))

/-- The verdict of the first rule that applies, or else the given one. -/
def verdictOf (rules : List VisitRule) (otherwise : Verdict) (c : Cursor) : Verdict :=
  ((rules.find? (·.applies c)).map (·.verdict)).getD otherwise

/-- A visitor that follows rules and records each cursor with its parent, the last first. -/
def visitor (rules : List VisitRule) (otherwise : Verdict) : Visitor (List (Cursor × Cursor)) :=
  fun seen cursor parent => (VisitRule.verdictOf rules otherwise cursor, (cursor, parent) :: seen)

end VisitRule

end CodeCursor
