import CodeCursor.Proofs.DiagnosticSearch
import CodeCursor.Proofs.NestedExtents
import Mathlib.Data.List.Flatten

/-!
# Listings in the order of the source

Diagnostics and cursors are listed in preorder.  In a tree whose spans are nested no node begins
before an earlier one, so both listings go through the source from its beginning to its end, by
line and column as well as by offset.
-/

namespace CodeCursor

/-- Each location of the list is the same as any later one or comes before it, by line, then
column, then offset. -/
def Location.Ascending (locations : List Location) : Prop :=
  locations.Pairwise fun a b => (compare a b).isLE = true

namespace Diagnostic

variable (source : Source)

theorem all_eq (tree : Node) :
    all source tree = if tree.label.hasError then within source tree else [] := by
  rw [all, Search.run_eq_total, Search.total, Search.start, List.nil_append, ahead]
  exact if_congr Iff.rfl (List.append_nil _) rfl

theorem map_location_ofLabel? (label : Label) :
    ((ofLabel? source label).toList.map location).Sublist [source.locate label.start] := by
  rw [ofLabel?_eq]
  split
  · exact List.Sublist.refl _
  · exact List.nil_sublist _

/-- The diagnostics at a place and below it stand where nodes begin, in preorder. -/
theorem within_sublist (p : Place) :
    ((within source p.node).map location).Sublist
      (p.preorder.map fun q => source.locate q.node.label.start) := by
  induction p using Place.induction with
  | step p ih =>
    have hchildren : ((withinAll source p.node.children).map location).Sublist
        ((p.children.flatMap Place.preorder).map fun q => source.locate q.node.label.start) := by
      rw [withinAll_children, List.map_flatMap, List.map_flatMap]
      exact List.Sublist.flatMap_right p.children ih
    rw [within_eq, List.map_append, Place.preorder_eq, List.map_cons]
    apply (map_location_ofLabel? source p.node.label).append
    split
    · exact hchildren
    · exact List.nil_sublist _

end Diagnostic

namespace SourceUnit

variable {u : SourceUnit}

theorem starts_ascending (hnested : u.tree.IsNested) :
    Location.Ascending (u.tree.places.map fun p => u.source.locate p.node.label.start) := by
  rw [Location.Ascending, List.pairwise_map]
  exact hnested.starts_sorted.imp fun h => (u.source.locate_upTo_locate h).compare_isLE

theorem diagnostics_ascending (hnested : u.tree.IsNested) :
    Location.Ascending (u.diagnostics.map Diagnostic.location) := by
  rw [diagnostics, Diagnostic.all_eq]
  split
  · exact (starts_ascending hnested).sublist (Diagnostic.within_sublist u.source (.root u.tree))
  · exact List.Pairwise.nil

theorem cursors_ascending (hnested : u.tree.IsNested) :
    Location.Ascending (u.root.preorder.map Cursor.location) := by
  rw [Location.Ascending, List.pairwise_map]
  apply (u.preorder_root_pairwise hnested.starts_sorted).imp_of_mem
  intro c d hc hd hstart
  rw [Cursor.location, Cursor.location, (mem_preorder_root.1 hc).1, (mem_preorder_root.1 hd).1]
  exact (u.source.locate_upTo_locate hstart).compare_isLE

/-- Lines count line feeds, columns the bytes after the last one.  Locations between characters
compare like their offsets, and no two of them share line and column.  So the diagnostics and the
cursors of a nested tree are listed in the order of their locations. -/
theorem locations_follow_offsets (u : SourceUnit) :
    (∀ before rest, u.source.chars = before ++ rest →
      u.source.locate (Text.byteLength before) =
        ⟨before.count '\n' + 1, Text.byteLength (Text.lastLine before) + 1,
          Text.byteLength before⟩) ∧
    (∀ a b, u.source.IsBoundary a → u.source.IsBoundary b →
      compare (u.source.locate a) (u.source.locate b) = compare a b ∧
      ((u.source.locate a).line = (u.source.locate b).line →
        (u.source.locate a).column = (u.source.locate b).column → a = b)) ∧
    (u.tree.IsNested →
      Location.Ascending (u.diagnostics.map Diagnostic.location) ∧
      Location.Ascending (u.root.preorder.map Cursor.location)) := by
  refine ⟨fun _ _ => Source.locate_of_split, ?_, ?_⟩
  · intro a b ha hb
    have hordered := u.source.locate_upTo_or a b
    constructor
    · rw [Location.compare_eq_compare_offset hordered, ha.offset_locate, hb.offset_locate]
    · intro hline hcolumn
      have hsame := Location.eq_of_line_of_column hordered hline hcolumn
      rw [← ha.offset_locate, ← hb.offset_locate, hsame]
  · intro hnested
    exact ⟨diagnostics_ascending hnested, cursors_ascending hnested⟩

/-- A source with characters of several bytes, a carriage return, an empty line, and two faults. -/
def uneven : SourceUnit where
  path := "unit.c"
  dialect := .c
  source := .ofString "// \u00e9\r\n\nint a;\n)\nint b"
  tree :=
    .node ⟨"translation_unit", none, true, false, false, true, 0, 22⟩
      [.node ⟨"comment", none, true, false, false, false, 0, 6⟩ [],
       .node ⟨"declaration", none, true, false, false, false, 8, 14⟩
        [.node ⟨"primitive_type", some "type", true, false, false, false, 8, 11⟩ [],
         .node ⟨"identifier", some "declarator", true, false, false, false, 12, 13⟩ [],
         .node ⟨";", none, false, false, false, false, 13, 14⟩ []],
       .node ⟨"ERROR", none, true, true, false, true, 15, 16⟩ [],
       .node ⟨"declaration", none, true, false, false, true, 17, 22⟩
        [.node ⟨"primitive_type", some "type", true, false, false, false, 17, 20⟩ [],
         .node ⟨"identifier", some "declarator", true, false, false, false, 21, 22⟩ [],
         .node ⟨";", none, false, false, true, true, 22, 22⟩ []]]
  options := .standard

theorem locations_follow_offsets_uneven :
    uneven.source.chars = "// \u00e9\r".toList ++ "\n\nint a;\n)\nint b".toList ∧
      uneven.source.locate 6 = ⟨1, 7, 6⟩ ∧
      uneven.source.IsBoundary 6 ∧ uneven.source.IsBoundary 8 ∧
      compare (uneven.source.locate 6) (uneven.source.locate 8) = .lt ∧
      uneven.tree.IsNested ∧
      uneven.diagnostics.map Diagnostic.location = [⟨4, 1, 15⟩, ⟨5, 6, 22⟩] ∧
      Location.Ascending (uneven.diagnostics.map Diagnostic.location) ∧
      uneven.root.preorder.map Cursor.location = [⟨1, 1, 0⟩, ⟨3, 1, 8⟩, ⟨5, 1, 17⟩] ∧
      Location.Ascending (uneven.root.preorder.map Cursor.location) := by
  obtain ⟨hcounts, hcompare, hlisted⟩ := locations_follow_offsets uneven
  have hsplit : uneven.source.chars =
      "// \u00e9\r".toList ++ "\n\nint a;\n)\nint b".toList := by decide
  have hend : uneven.source.IsBoundary 6 := by decide
  have hbegin : uneven.source.IsBoundary 8 := by decide
  have hnested : uneven.tree.IsNested := by decide
  refine ⟨hsplit, hcounts _ _ hsplit, hend, hbegin, (hcompare 6 8 hend hbegin).1, hnested, ?_,
    (hlisted hnested).1, ?_, (hlisted hnested).2⟩
  · rw [diagnostics, Diagnostic.all_eq]
    decide
  · decide

end SourceUnit

end CodeCursor
