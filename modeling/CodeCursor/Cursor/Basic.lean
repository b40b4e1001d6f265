import CodeCursor.Cursor.Exposure
import CodeCursor.SourceUnit

/-!
# Cursors

A cursor is a place in the tree of a source unit that is shown, together with the kind it
is shown as.  The children of a cursor are the nearest places below it that are shown, in source
order: a flattened node is looked through, and a hidden one is not looked into.
-/

namespace CodeCursor

structure Cursor where
  unit : SourceUnit
  place : Place
  kind : CursorKind

namespace SourceUnit

def root (u : SourceUnit) : Cursor :=
  ⟨u, .root u.tree, .wholeUnit⟩

def exposure (u : SourceUnit) (p : Place) : Exposure :=
  p.exposure u.options u.source

mutual
/-- The cursors that a node contributes to the nearest cursor above it. -/
def cursorsAt (u : SourceUnit) (trail : List Crumb) : Node → List Cursor
  | .node label children =>
    let n := Node.node label children
    match u.exposure ⟨n, trail⟩ with
    | .cursor kind => [⟨u, ⟨n, trail⟩, kind⟩]
    | .flattened => u.cursorsAmong n trail 0 children
    | .hidden => []

/-- The cursors that children of a node contribute, counted from the given index. -/
def cursorsAmong (u : SourceUnit) (parent : Node) (trail : List Crumb) (index : Nat) :
    List Node → List Cursor
  | [] => []
  | child :: rest =>
    u.cursorsAt (⟨parent, index⟩ :: trail) child ++
      u.cursorsAmong parent trail (index + 1) rest
end

end SourceUnit

namespace Cursor

def children (c : Cursor) : List Cursor :=
  c.unit.cursorsAmong c.place.node c.place.trail 0 c.place.node.children

def extent (c : Cursor) : Extent :=
  c.unit.extentOf c.place.node

def location (c : Cursor) : Location :=
  c.unit.source.locate c.place.node.label.start

def isDeclaration (c : Cursor) : Bool :=
  c.kind.isDeclaration

/-- The cursor reached by a list of indices, each of a child among the children. -/
def at? (c : Cursor) : List Nat → Option Cursor
  | [] => some c
  | index :: path => c.children[index]?.bind (·.at? path)

end Cursor

end CodeCursor
