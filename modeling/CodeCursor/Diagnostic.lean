import CodeCursor.Source.Slice
import CodeCursor.Text.Blank
import CodeCursor.Tree.Walk

/-!
# Diagnostics

A diagnostic stands for text that the grammar could not place, or for something that the grammar
asked for and the text does not have.  They come in the order of the tree, and nothing below
misplaced text is reported again.
-/

namespace CodeCursor

inductive Severity where
  | warning
  | error
deriving DecidableEq, Repr

def Severity.word : Severity → String
  | warning => "warning"
  | error => "error"

/-- What a parser found wrong. -/
inductive Fault where
  /-- Text that could not be placed. -/
  | unexpected (text : List Char)
  /-- A node of the given kind that is not there. -/
  | expected (kind : String)
deriving DecidableEq, Repr

/-- How many characters of misplaced text are shown. -/
def Fault.snippetLength : Nat := 32

/-- The words of a text with one space between neighbours.  When these do not fit into a message,
they are cut at the byte with which the first character begins that does not. -/
def Fault.snippet (text : List Char) : List Char :=
  let shown := Text.spaced text
  match Text.bytesBefore? shown snippetLength with
  | none => shown
  | some cut => (Text.takeBytes? cut shown).getD [] ++ ['.', '.', '.']

def Fault.message : Fault → String
  | unexpected text => "unexpected '" ++ String.ofList (snippet text) ++ "'"
  | expected kind => "expected '" ++ kind ++ "'"

structure Diagnostic where
  severity : Severity
  location : Location
  fault : Fault
deriving DecidableEq, Repr

namespace Diagnostic

def message (d : Diagnostic) : String := d.fault.message

/-- The diagnostic as it is shown, its place first. -/
def display (d : Diagnostic) : String :=
  d.location.display ++ ": " ++ d.severity.word ++ ": " ++ d.message

/-- The diagnostic of a node by itself. -/
def ofLabel? (source : Source) (label : Label) : Option Diagnostic :=
  let place := source.locate label.start
  if label.error then
    some ⟨.error, place, .unexpected (source.slice label.start label.stop)⟩
  else if label.missing then some ⟨.error, place, .expected label.kind⟩
  else none

/-- A search for diagnostics: the place that comes next, and what has been found before it. -/
structure Search where
  place : Place
  found : List Diagnostic

/-- How a search goes on after a place. -/
inductive Progress where
  /-- There is another place to look at. -/
  | going (search : Search)
  /-- The tree is done, and this is what has been found. -/
  | finished (found : List Diagnostic)

namespace Search

/-- A search before its first place, the root. -/
def start (tree : Node) : Search := ⟨.root tree, []⟩

/-- Looks at one place.  Only below a node that is no error and is marked to have one is there
something to find; from any other node the search goes on past everything below it. -/
def step (source : Source) (s : Search) : Progress :=
  let label := s.place.node.label
  let found := s.found ++ (ofLabel? source label).toList
  match s.place.next? (label.hasError && !label.error) with
  | some next => .going ⟨next, found⟩
  | none => .finished found

theorem sizeFrom_step {source : Source} {s next : Search} (h : s.step source = .going next) :
    next.place.sizeFrom < s.place.sizeFrom := by
  rw [step] at h
  split at h
  · rename_i place hp
    cases h
    exact Place.sizeFrom_next? hp
  · simp at h

def run (source : Source) (s : Search) : List Diagnostic :=
  match _h : s.step source with
  | .going next => next.run source
  | .finished found => found
termination_by s.place.sizeFrom
decreasing_by exact sizeFrom_step ‹_›

end Search

/-- The diagnostics of a whole source, none if its root is not marked to have an error. -/
def all (source : Source) (tree : Node) : List Diagnostic :=
  if tree.label.hasError then (Search.start tree).run source else []

end Diagnostic

end CodeCursor
