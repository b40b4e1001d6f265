import CodeCursor.Source.Slice
import Mathlib.Data.List.Induction

/-!
# The order of locations

A location says twice where it is: by line and column, and by offset.  Each character of a text
leads on by both, a line feed to the beginning of the next line and any other character along its
line.  So it does not matter by which of the two the locations of one text are compared.
-/

namespace CodeCursor

/-- What stands after the last line feed of a text, or all of it without one. -/
def Text.lastLine (text : List Char) : List Char :=
  (text.reverse.takeWhile (· != '\n')).reverse

theorem Text.lastLine_append_singleton (text : List Char) (c : Char) :
    lastLine (text ++ [c]) = if c = '\n' then [] else lastLine text ++ [c] := by
  simp only [lastLine, List.reverse_append, List.reverse_singleton, List.singleton_append,
    List.takeWhile_cons, bne_iff_ne, ne_eq, ite_not]
  split
  · rfl
  · rw [List.reverse_cons]

namespace Location

/-- A location comes before another one, by line and column as well as by offset. -/
structure Precedes (a b : Location) : Prop where
  line : a.line < b.line ∨ a.line = b.line ∧ a.column < b.column
  offset : a.offset < b.offset

theorem Precedes.trans {a b c : Location} (hab : a.Precedes b) (hbc : b.Precedes c) :
    a.Precedes c := by
  obtain ⟨hline, hoffset⟩ := hab
  obtain ⟨hline', hoffset'⟩ := hbc
  constructor
  · omega
  · omega

theorem precedes_after (here : Location) (c : Char) : here.Precedes (here.after c) := by
  have hsize := c.utf8Size_pos
  unfold after
  split
  · exact ⟨.inl (Nat.lt_succ_self _), Nat.lt_add_of_pos_right hsize⟩
  · exact ⟨.inr ⟨rfl, Nat.lt_add_of_pos_right hsize⟩, Nat.lt_add_of_pos_right hsize⟩

/-- A location is the same as another one or comes before it. -/
def UpTo (a b : Location) : Prop :=
  a = b ∨ a.Precedes b

theorem UpTo.refl (a : Location) : a.UpTo a :=
  .inl rfl

theorem UpTo.trans {a b c : Location} (hab : a.UpTo b) (hbc : b.UpTo c) : a.UpTo c := by
  rcases hab with rfl | hab
  · exact hbc
  · rcases hbc with rfl | hbc
    · exact .inr hab
    · exact .inr (hab.trans hbc)

theorem compare_eq (a b : Location) :
    compare a b = ((compare a.line b.line).then (compare a.column b.column)).then
      (compare a.offset b.offset) := by
  obtain ⟨aLine, aColumn, aOffset⟩ := a
  obtain ⟨bLine, bColumn, bOffset⟩ := b
  simp only [compare, instOrdLocation.ord, Ordering.then_eq, Ordering.then_assoc]

theorem compare_self (a : Location) : compare a a = .eq := by
  rw [compare_eq, Nat.compare_eq_eq.2 rfl, Nat.compare_eq_eq.2 rfl, Nat.compare_eq_eq.2 rfl]
  rfl

theorem Precedes.compare_eq_lt {a b : Location} (h : a.Precedes b) : compare a b = .lt := by
  rw [compare_eq]
  rcases h.line with hline | ⟨hline, hcolumn⟩
  · rw [Nat.compare_eq_lt.2 hline]
    rfl
  · rw [Nat.compare_eq_eq.2 hline, Nat.compare_eq_lt.2 hcolumn]
    rfl

theorem Precedes.compare_eq_gt {a b : Location} (h : b.Precedes a) : compare a b = .gt := by
  rw [compare_eq]
  rcases h.line with hline | ⟨hline, hcolumn⟩
  · rw [Nat.compare_eq_gt.2 hline]
    rfl
  · rw [Nat.compare_eq_eq.2 hline.symm, Nat.compare_eq_gt.2 hcolumn]
    rfl

theorem UpTo.compare_isLE {a b : Location} (h : a.UpTo b) : (compare a b).isLE = true := by
  rcases h with rfl | h
  · rw [compare_self]
    rfl
  · rw [h.compare_eq_lt]
    rfl

theorem compare_eq_compare_offset {a b : Location} (h : a.UpTo b ∨ b.UpTo a) :
    compare a b = compare a.offset b.offset := by
  rcases h with (rfl | h) | (rfl | h)
  · rw [compare_self, Nat.compare_eq_eq.2 rfl]
  · rw [h.compare_eq_lt, Nat.compare_eq_lt.2 h.offset]
  · rw [compare_self, Nat.compare_eq_eq.2 rfl]
  · rw [h.compare_eq_gt, Nat.compare_eq_gt.2 h.offset]

theorem eq_of_line_of_column {a b : Location} (h : a.UpTo b ∨ b.UpTo a)
    (hline : a.line = b.line) (hcolumn : a.column = b.column) : a = b := by
  rcases h with (rfl | h) | (rfl | h)
  · rfl
  · have := h.line
    omega
  · rfl
  · have := h.line
    omega

theorem upTo_seek (here : Location) (text : List Char) (offset : Nat) :
    here.UpTo (here.seek text offset) := by
  induction text generalizing here with
  | nil => exact .refl here
  | cons c rest ih =>
    rw [seek]
    split
    · exact .refl here
    · exact UpTo.trans (.inr (here.precedes_after c)) (ih (here.after c))

/-- Who seeks a later offset gets at least as far. -/
theorem seek_upTo_seek (here : Location) (text : List Char) {a b : Nat} (h : a ≤ b) :
    (here.seek text a).UpTo (here.seek text b) := by
  induction text generalizing here with
  | nil => exact .refl here
  | cons c rest ih =>
    by_cases ha : a ≤ here.offset
    · rw [seek, if_pos ha]
      exact here.upTo_seek (c :: rest) b
    · have hb : ¬b ≤ here.offset := by omega
      rw [seek, seek, if_neg ha, if_neg hb]
      exact ih (here.after c)

/-- The line counts the line feeds that are passed, the column the bytes since the last one, and
the offset all bytes. -/
theorem foldl_after_first (before : List Char) :
    before.foldl after first =
      ⟨before.count '\n' + 1, Text.byteLength (Text.lastLine before) + 1,
        Text.byteLength before⟩ := by
  induction before using List.reverseRecOn with
  | nil => rfl
  | append_singleton before c ih =>
    rw [List.foldl_append, ih, List.foldl_cons, List.foldl_nil, after,
      Text.lastLine_append_singleton]
    by_cases hc : c = '\n'
    · simp [hc, Text.byteLength]
    · simp [hc, Text.byteLength, Nat.add_right_comm]

end Location

namespace Source

/-- Whether an offset lies between two characters of the text, or at one of its ends. -/
def IsBoundary (source : Source) (offset : Nat) : Prop :=
  ∃ before rest, source.chars = before ++ rest ∧ Text.byteLength before = offset

instance (source : Source) (offset : Nat) : Decidable (source.IsBoundary offset) :=
  decidable_of_iff ((Text.dropBytes? offset source.chars).isSome = true) (by
    simp only [Option.isSome_iff_exists, Text.dropBytes?_eq_some_iff, IsBoundary]
    exact exists_comm)

variable (source : Source)

theorem locate_upTo_locate {a b : Nat} (h : a ≤ b) : (source.locate a).UpTo (source.locate b) :=
  Location.first.seek_upTo_seek source.chars h

theorem locate_upTo_or (a b : Nat) :
    (source.locate a).UpTo (source.locate b) ∨ (source.locate b).UpTo (source.locate a) :=
  (Nat.le_total a b).imp source.locate_upTo_locate source.locate_upTo_locate

variable {source}

theorem locate_of_split {before rest : List Char} (h : source.chars = before ++ rest) :
    source.locate (Text.byteLength before) =
      ⟨before.count '\n' + 1, Text.byteLength (Text.lastLine before) + 1,
        Text.byteLength before⟩ := by
  have hseek := Location.first.seek_append before rest
  rw [← h, Location.foldl_after_first] at hseek
  rw [locate, ← hseek]
  exact congrArg _ (Nat.zero_add _).symm

theorem IsBoundary.offset_locate {offset : Nat} (h : source.IsBoundary offset) :
    (source.locate offset).offset = offset := by
  obtain ⟨before, rest, hsplit, rfl⟩ := h
  rw [locate_of_split hsplit]

end Source

end CodeCursor
