import CodeCursor.Text.Quoted

/-!
# Options of a source unit

An option set is a word of flags.  Three flags have a meaning.  A set with any other flag can be
held and shown, but no source unit is made with it.
-/

namespace CodeCursor

/-- A set of flags, one per bit. -/
structure Options where
  bits : UInt32
deriving DecidableEq, Repr

namespace Options

def standard : Options := ⟨0⟩

/-- Inclusions and macro definitions are shown as cursors. -/
def preprocessingRecord : Options := ⟨0x01⟩

/-- The bodies of functions and methods are left out. -/
def skipBodies : Options := ⟨0x40⟩

/-- Declarations carry the comments before them. -/
def briefComments : Options := ⟨0x80⟩

def union (a b : Options) : Options := ⟨a.bits ||| b.bits⟩

def without (a b : Options) : Options := ⟨a.bits &&& ~~~b.bits⟩

def contains (a b : Options) : Bool := (a.bits &&& b.bits) == b.bits

def known : Options := (preprocessingRecord.union skipBodies).union briefComments

/-- Whether every flag of the set has a meaning. -/
def isValid (a : Options) : Bool := a.without known == standard

/-- The set with the given bits, if every flag has a meaning. -/
def ofBits? (bits : UInt32) : Option Options :=
  if (⟨bits⟩ : Options).isValid then some ⟨bits⟩ else none

/-- The flags with their names, in the order in which they are shown. -/
def names : List (Options × String) :=
  [(preprocessingRecord, "DETAILED_PREPROCESSING_RECORD"),
   (skipBodies, "SKIP_FUNCTION_BODIES"),
   (briefComments, "INCLUDE_BRIEF_COMMENTS")]

/-- A word in hexadecimal after `0x`. -/
def hexText (bits : UInt32) : String :=
  "0x" ++ String.ofList (Text.hexDigits bits.toNat)

/-- What the set is shown as between the parentheses: the names of its flags, then the flags
without a meaning as one number. -/
def parts (a : Options) : List String :=
  let unknown := a.without known
  (names.filter (a.contains ·.1)).map (·.2) ++
    if unknown = standard then [] else [hexText unknown.bits]

def describe (a : Options) : String :=
  let shown := if a.parts.isEmpty then ["NONE"] else a.parts
  "CreationOptions(" ++ " | ".intercalate shown ++ ")"

end Options

end CodeCursor
