import CodeCursor.Source.Location

/-!
# Source texts

A source text is cut by byte offsets.  A part is read only between two places where characters
meet, and it is then exactly what stands between them.
-/

namespace CodeCursor

structure Source where
  chars : List Char
deriving DecidableEq, Repr

namespace Source

def ofString (text : String) : Source := ⟨text.toList⟩

def text (source : Source) : String := String.ofList source.chars

/-- The characters from one byte offset to another, if both lie where characters meet. -/
def slice? (source : Source) (start stop : Nat) : Option (List Char) :=
  if start ≤ stop then
    (Text.dropBytes? start source.chars).bind (Text.takeBytes? (stop - start))
  else none

/-- The characters from one byte offset to another, none if an offset splits a character. -/
def slice (source : Source) (start stop : Nat) : List Char :=
  (source.slice? start stop).getD []

def locate (source : Source) (offset : Nat) : Location :=
  Location.first.seek source.chars offset

/-- A part of the source is what stands between its two offsets. -/
theorem slice?_eq_some_iff {source : Source} {start stop : Nat} {part : List Char} :
    source.slice? start stop = some part ↔
      ∃ before after, source.chars = before ++ part ++ after ∧
        Text.byteLength before = start ∧ Text.byteLength (before ++ part) = stop := by
  unfold slice?
  constructor
  · intro h
    split at h
    · rename_i hle
      obtain ⟨rest, hdrop, htake⟩ := Option.bind_eq_some_iff.1 h
      obtain ⟨before, hbefore, hstart⟩ := Text.dropBytes?_eq_some_iff.1 hdrop
      obtain ⟨⟨after, hafter⟩, hpart⟩ := Text.takeBytes?_eq_some_iff.1 htake
      refine ⟨before, after, by simp [hbefore, hafter], hstart, ?_⟩
      rw [Text.byteLength_append]
      omega
    · simp at h
  · rintro ⟨before, after, hchars, rfl, rfl⟩
    have hle : Text.byteLength before ≤ Text.byteLength (before ++ part) := by simp
    rw [if_pos hle]
    refine Option.bind_eq_some_iff.2 ⟨part ++ after, ?_, ?_⟩
    · exact Text.dropBytes?_eq_some_iff.2 ⟨before, by simp [hchars], rfl⟩
    · exact Text.takeBytes?_eq_some_iff.2 ⟨⟨after, rfl⟩, by simp⟩

end Source

end CodeCursor
