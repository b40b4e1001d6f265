/-!
# Beginnings and ends of a text

Tests for a fixed beginning or end, and the removal of a beginning as often as it occurs.
-/

namespace CodeCursor.Text

def beginsWith (text opening : String) : Bool :=
  opening.toList.isPrefixOf text.toList

theorem beginsWith_iff {text opening : String} :
    beginsWith text opening = true ↔ ∃ rest, text = opening ++ rest := by
  rw [beginsWith, List.isPrefixOf_iff_prefix]
  constructor
  · rintro ⟨rest, h⟩
    refine ⟨String.ofList rest, String.toList_inj.1 ?_⟩
    rw [String.toList_append, String.toList_ofList, h]
  · rintro ⟨rest, rfl⟩
    rw [String.toList_append]
    exact List.prefix_append _ _

def endsIn (text ending : String) : Bool :=
  ending.toList.isSuffixOf text.toList

/-- The text after all copies of `opening` that stand one after another at its beginning.  An
empty opening removes nothing. -/
def dropRepeated (opening text : List Char) : List Char :=
  match opening.isPrefixOf? text with
  | none => text
  | some rest => if rest.length < text.length then dropRepeated opening rest else text
termination_by text.length

end CodeCursor.Text
