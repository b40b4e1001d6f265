import CodeCursor.Cursor.Spelling
import CodeCursor.Proofs.QuotedTexts
import Mathlib.Data.List.Nodup

/-!
# What the text of a cursor tells

A cursor is written as its kind, its quoted spelling and where it begins.  The kind ends at the
first space, for the name of no kind has one, and the spelling at its closing quote, whatever the
source had it spelled like, the text of another cursor included.  The text therefore tells these
three apart, and nothing else of the cursor.
-/

namespace CodeCursor

namespace CursorKind

def all : List CursorKind :=
  (List.range 74).map ofNat

theorem mem_all (kind : CursorKind) : kind ∈ all := by
  have hlt : kind.ctorIdx < 74 := by
    cases kind <;> decide
  exact List.mem_map.2 ⟨kind.ctorIdx, List.mem_range.2 hlt, ofNat_ctorIdx kind⟩

theorem name_injective : Function.Injective name := by
  intro a b h
  have hnodup : (all.map name).Nodup := by decide +kernel
  exact List.inj_on_of_nodup_map hnodup (mem_all a) (mem_all b) h

theorem space_not_mem_name (kind : CursorKind) : ' ' ∉ kind.name.toList := by
  cases kind <;> simp [name]

theorem selfDelimiting_name :
    Text.SelfDelimiting fun kind : CursorKind => kind.name.toList ++ [' '] := by
  apply Text.SelfDelimiting.of_stop
  · intro a b h
    exact name_injective (String.toList_inj.1 h)
  · exact space_not_mem_name

end CursorKind

namespace Location

theorem toList_display (here : Location) :
    here.display.toList = Nat.toDigits 10 here.line ++ ':' :: Nat.toDigits 10 here.column := by
  simp [display]

theorem colon_not_mem_toDigits (n : Nat) : ':' ∉ Nat.toDigits 10 n := by
  intro h
  obtain ⟨d, -, hd⟩ := Text.mem_toDigits (by decide) h
  exact Nat.digitChar_ne ':' (by decide) hd.symm

/-- The written form tells the line and the column, but not the offset. -/
theorem display_eq_iff {a b : Location} :
    a.display = b.display ↔ a.line = b.line ∧ a.column = b.column := by
  constructor
  · intro h
    have htext := congrArg String.toList h
    rw [toList_display, toList_display] at htext
    obtain ⟨hline, hcolumn⟩ := Text.append_stop_inj (colon_not_mem_toDigits a.line)
      (colon_not_mem_toDigits b.line) htext
    exact ⟨Text.toDigits_inj (by decide) (by decide) hline,
      Text.toDigits_inj (by decide) (by decide) hcolumn⟩
  · rintro ⟨hline, hcolumn⟩
    rw [display, display, hline, hcolumn]

end Location

namespace Cursor

theorem toList_describe (c : Cursor) :
    c.describe.toList = (c.kind.name.toList ++ [' ']) ++
      (Text.quoted c.spelling.toList ++ (" at ".toList ++ c.location.display.toList)) := by
  simp [describe]

/-- Two cursors, of one unit or of two, are written alike exactly if they have the same kind, the
same spelling and the same line and column. -/
theorem describe_eq_iff (c d : Cursor) :
    c.describe = d.describe ↔ c.kind = d.kind ∧ c.spelling = d.spelling ∧
      c.location.line = d.location.line ∧ c.location.column = d.location.column := by
  constructor
  · intro h
    have htext := congrArg String.toList h
    rw [toList_describe, toList_describe] at htext
    obtain ⟨hkind, htext⟩ := CursorKind.selfDelimiting_name htext
    obtain ⟨hspelling, htext⟩ := Text.selfDelimiting_quoted htext
    have hlocation := String.toList_inj.1 (List.append_cancel_left htext)
    exact ⟨hkind, String.toList_inj.1 hspelling, Location.display_eq_iff.1 hlocation⟩
  · rintro ⟨hkind, hspelling, hlocation⟩
    rw [describe, describe, hkind, hspelling, Location.display_eq_iff.2 hlocation]

end Cursor

end CodeCursor
