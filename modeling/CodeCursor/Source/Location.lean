import CodeCursor.Text.Bytes

/-!
# Locations

A place between two characters of a source text.  Lines and columns count from one, and columns
and offsets are counted in bytes of the UTF-8 form of the text.
-/

namespace CodeCursor

/-- A place in a source text: line, column within the line, and offset from the beginning. -/
structure Location where
  line : Nat
  /-- The column in bytes, counted from one. -/
  column : Nat
  offset : Nat
deriving DecidableEq, Repr, Ord

/-- The part of a source text between two places. -/
structure Extent where
  start : Location
  stop : Location
deriving DecidableEq, Repr

namespace Location

def first : Location := ⟨1, 1, 0⟩

/-- The place after a character that stands at this place. -/
def after (here : Location) (c : Char) : Location :=
  if c = '\n' then ⟨here.line + 1, 1, here.offset + c.utf8Size⟩
  else ⟨here.line, here.column + c.utf8Size, here.offset + c.utf8Size⟩

/-- The place with a given offset in the text that begins at this place.  It is the first place
between two characters that is not before the offset, or the end of the text. -/
def seek (here : Location) (text : List Char) (offset : Nat) : Location :=
  match text with
  | [] => here
  | c :: rest => if offset ≤ here.offset then here else (here.after c).seek rest offset

/-- The written form, line and column with a colon between them. -/
def display (here : Location) : String :=
  toString here.line ++ ":" ++ toString here.column

@[simp] theorem offset_after (here : Location) (c : Char) :
    (here.after c).offset = here.offset + c.utf8Size := by
  unfold after; split <;> rfl

/-- Seeking the end of a beginning of the text passes just the characters of that beginning. -/
theorem seek_append (here : Location) (before rest : List Char) :
    here.seek (before ++ rest) (here.offset + Text.byteLength before) =
      before.foldl after here := by
  induction before generalizing here with
  | nil => cases rest <;> simp [seek, Text.byteLength]
  | cons c before ih =>
    have := c.utf8Size_pos
    have hgt : ¬here.offset + Text.byteLength (c :: before) ≤ here.offset := by
      simp only [Text.byteLength]
      omega
    have moved : here.offset + Text.byteLength (c :: before) =
        (here.after c).offset + Text.byteLength before := by
      simp [Text.byteLength, Nat.add_assoc]
    rw [List.cons_append, seek, if_neg hgt, moved, List.foldl_cons]
    exact ih (here.after c)

theorem offset_foldl_after (here : Location) (before : List Char) :
    (before.foldl after here).offset = here.offset + Text.byteLength before := by
  induction before generalizing here with
  | nil => rfl
  | cons c before ih =>
    rw [List.foldl_cons, ih, offset_after, Text.byteLength, Nat.add_assoc]

/-- Seeking the end of a beginning of the text finds a place with just that offset. -/
theorem offset_seek (here : Location) (before rest : List Char) :
    (here.seek (before ++ rest) (here.offset + Text.byteLength before)).offset =
      here.offset + Text.byteLength before := by
  rw [seek_append, offset_foldl_after]

end Location

end CodeCursor
