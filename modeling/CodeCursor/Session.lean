import CodeCursor.Cursor.Basic
import CodeCursor.Index

/-!
# Sessions

A session is an index together with the source units made by it, which are numbered in
order.  A parse that fails takes a number too.
-/

namespace CodeCursor

/-- An index and what its parses gave. -/
structure Session where
  index : Index
  units : List (Option SourceUnit)

structure SessionCursor where
  unit : Nat
  cursor : Cursor

/-- Whether two cursors are the same: those of one unit at one place with one kind. -/
def SessionCursor.same (a b : SessionCursor) : Bool :=
  a.unit == b.unit && a.cursor.place.path == b.cursor.place.path && a.cursor.kind == b.cursor.kind

namespace Session

def start (index : Index) : Session := ⟨index, []⟩

/-- Parses a text and gives the result the next number. -/
def parse (engine : Engine) (s : Session) (path text : String) (options : Options) :
    Except SetupError ParsedUnit × Session :=
  let (result, index) := s.index.parse engine path text options
  (result, ⟨index, s.units ++ [result.toOption.map (·.unit)]⟩)

/-- The unit with a number, if its parse did not fail. -/
def unit? (s : Session) (number : Nat) : Option SourceUnit :=
  (s.units[number]?).bind id

/-- The cursor of a numbered unit that a list of child indices leads to from the root. -/
def cursor? (s : Session) (number : Nat) (path : List Nat) : Option SessionCursor := do
  let u ← s.unit? number
  let cursor ← u.root.at? path
  some ⟨number, cursor⟩

end Session

end CodeCursor
