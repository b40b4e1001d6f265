import CodeCursor.Index
import CodeCursor.Proofs.ListingOrder
import CodeCursor.Proofs.Snippets

/-!
# Diagnostics and line feeds

The message for misplaced text consists of words and single spaces, so it stays on one line.  The
message for something that is missing shows the kind of the missing node as it is, so it has a line
feed exactly if the kind has one, as the token has that ends a line.  What is put around a message,
to show a diagnostic or to log it, adds none.
-/

namespace CodeCursor

namespace Text

/-- Whether a text has no line feed. -/
def OneLine (text : String) : Prop :=
  '\n' ∉ text.toList

instance : DecidablePred OneLine := fun text =>
  inferInstanceAs (Decidable ('\n' ∉ text.toList))

@[simp] theorem oneLine_append (a b : String) : OneLine (a ++ b) ↔ OneLine a ∧ OneLine b := by
  simp only [OneLine, String.toList_append, List.mem_append, not_or]

theorem oneLine_ofList (text : List Char) : OneLine (String.ofList text) ↔ '\n' ∉ text := by
  rw [OneLine, String.toList_ofList]

theorem oneLine_toString (n : Nat) : OneLine (toString n) := by
  intro hmem
  change '\n' ∈ (String.ofList (Nat.toDigits 10 n)).toList at hmem
  rw [String.toList_ofList] at hmem
  have hdigit := Nat.isDigit_of_mem_toDigits (by decide) (by decide) hmem
  contradiction

theorem mem_intercalate {separator : List Char} {list : List (List Char)} {c : Char}
    (h : c ∈ separator.intercalate list) : c ∈ separator ∨ ∃ word ∈ list, c ∈ word := by
  induction list with
  | nil => simp [List.intercalate] at h
  | cons word rest ih =>
    cases rest with
    | nil =>
      rw [List.intercalate_singleton] at h
      exact .inr ⟨word, List.mem_cons_self, h⟩
    | cons next others =>
      rw [List.intercalate_cons_cons, List.mem_append, List.mem_append] at h
      rcases h with (h | h) | h
      · exact .inr ⟨word, List.mem_cons_self, h⟩
      · exact .inl h
      · rcases ih h with hseparator | ⟨other, hother, hc⟩
        · exact .inl hseparator
        · exact .inr ⟨other, List.mem_cons_of_mem _ hother, hc⟩

/-- The only blank that a text keeps with its words spaced is the space. -/
theorem eq_space_of_mem_spaced {text : List Char} {c : Char} (h : c ∈ spaced text)
    (hc : isBlank c = true) : c = ' ' := by
  rcases mem_intercalate h with hspace | ⟨word, hword, hmem⟩
  · exact List.mem_singleton.1 hspace
  · have hplain := (of_mem_words hword).2 c hmem
    rw [hc] at hplain
    contradiction

theorem lineFeed_not_mem_spaced (text : List Char) : '\n' ∉ spaced text := by
  intro h
  have hspace := eq_space_of_mem_spaced h (by decide)
  contradiction

end Text

namespace Fault

theorem oneLine_unexpected (text : List Char) : Text.OneLine (unexpected text).message := by
  obtain ⟨hfits, hlong⟩ := message_unexpected text
  have hspaced := Text.lineFeed_not_mem_spaced text
  rcases Nat.lt_or_ge snippetLength (Text.spaced text).length with hlt | hle
  · have hcut : '\n' ∉ (Text.spaced text).take snippetLength :=
      fun hmem => hspaced (List.mem_of_mem_take hmem)
    rw [hlong hlt, Text.oneLine_append, Text.oneLine_append]
    exact ⟨⟨by decide, (Text.oneLine_ofList _).2 hcut⟩, by decide⟩
  · rw [hfits hle, Text.oneLine_append, Text.oneLine_append]
    exact ⟨⟨by decide, (Text.oneLine_ofList _).2 hspaced⟩, by decide⟩

theorem oneLine_expected_iff (kind : String) :
    Text.OneLine (expected kind).message ↔ Text.OneLine kind := by
  rw [message, Text.oneLine_append, Text.oneLine_append]
  constructor
  · intro h
    exact h.1.2
  · intro h
    exact ⟨⟨by decide, h⟩, by decide⟩

end Fault

namespace Diagnostic

/-- The place and the severity before the message have no line feed. -/
theorem oneLine_display_iff (d : Diagnostic) : Text.OneLine d.display ↔ Text.OneLine d.message := by
  have hplace : Text.OneLine d.location.display := by
    rw [Location.display, Text.oneLine_append, Text.oneLine_append]
    exact ⟨⟨Text.oneLine_toString _, by decide⟩, Text.oneLine_toString _⟩
  have hword : Text.OneLine d.severity.word := by
    cases d.severity with
    | warning => decide
    | error => decide
  rw [display, Text.oneLine_append, Text.oneLine_append, Text.oneLine_append, Text.oneLine_append]
  constructor
  · intro h
    exact h.2
  · intro h
    exact ⟨⟨⟨⟨hplace, by decide⟩, hword⟩, by decide⟩, h⟩

variable {source : Source}

theorem oneLine_message_iff {label : Label} {d : Diagnostic} (h : ofLabel? source label = some d) :
    Text.OneLine d.message ↔ label.error = true ∨ Text.OneLine label.kind := by
  unfold ofLabel? at h
  split at h
  · rename_i herror
    cases h
    exact iff_of_true (Fault.oneLine_unexpected _) (.inl herror)
  · rename_i herror
    split at h
    · cases h
      rw [or_iff_right herror]
      exact Fault.oneLine_expected_iff label.kind
    · contradiction

theorem missing_of_ofLabel? {label : Label} {d : Diagnostic} (h : ofLabel? source label = some d)
    (herror : label.error = false) : label.missing = true := by
  rw [ofLabel?, herror, if_neg Bool.false_ne_true] at h
  by_contra hmissing
  rw [if_neg hmissing] at h
  contradiction

/-- Each diagnostic is that of a node. -/
theorem exists_mem_preorder_of_mem_within {p : Place} {d : Diagnostic}
    (h : d ∈ within source p.node) :
    ∃ q ∈ p.preorder, ofLabel? source q.node.label = some d := by
  induction p using Place.induction with
  | step p ih =>
    rw [within_eq, List.mem_append] at h
    rcases h with h | h
    · exact ⟨p, p.self_mem_preorder, Option.mem_toList.1 h⟩
    · split at h
      · rw [withinAll_children] at h
        obtain ⟨q, hq, h⟩ := List.mem_flatMap.1 h
        obtain ⟨r, hr, hd⟩ := ih q hq h
        exact ⟨r, Place.mem_preorder_iff.2 (.inr ⟨q, hq, hr⟩), hd⟩
      · simp at h

theorem exists_place_of_mem_all {tree : Node} {d : Diagnostic} (h : d ∈ all source tree) :
    ∃ p : Place, p.In tree ∧ ofLabel? source p.node.label = some d := by
  rw [all_eq] at h
  split at h
  · obtain ⟨p, hp, hd⟩ := exists_mem_preorder_of_mem_within (p := .root tree) h
    exact ⟨p, Node.mem_places_iff.1 hp, hd⟩
  · simp at h

end Diagnostic

namespace SourceUnit

/-- Each diagnostic is that of a node, and its message has a line feed exactly if the node is
missing and the node's kind has one.  Shown or logged for a path without line feeds, it has one
exactly if its message has.  So all diagnostics are on one line if the kinds of missing nodes
are. -/
theorem diagnostics_on_one_line (u : SourceUnit) :
    (∀ d ∈ u.diagnostics,
      (∃ p : Place, p.In u.tree ∧ Diagnostic.ofLabel? u.source p.node.label = some d ∧
        (Text.OneLine d.message ↔ p.node.label.error = true ∨ Text.OneLine p.node.kind)) ∧
      (Text.OneLine d.display ↔ Text.OneLine d.message)) ∧
    (∀ index : Index, Text.OneLine u.path → ∀ warning ∈ index.warningsOf u,
      ∃ d ∈ u.diagnostics, warning = u.path ++ ": " ++ d.display ∧
        (Text.OneLine warning ↔ Text.OneLine d.message)) ∧
    ((∀ p : Place, p.In u.tree → p.node.label.missing = true → Text.OneLine p.node.kind) →
      ∀ d ∈ u.diagnostics, Text.OneLine d.message ∧ Text.OneLine d.display) := by
  refine ⟨?_, ?_, ?_⟩
  · intro d hd
    obtain ⟨p, hp, hlabel⟩ := Diagnostic.exists_place_of_mem_all hd
    exact ⟨⟨p, hp, hlabel, Diagnostic.oneLine_message_iff hlabel⟩, d.oneLine_display_iff⟩
  · intro index hpath warning hwarning
    unfold Index.warningsOf at hwarning
    split at hwarning
    · obtain ⟨d, hd, rfl⟩ := List.mem_map.1 hwarning
      refine ⟨d, hd, rfl, ?_⟩
      rw [Text.oneLine_append, Text.oneLine_append, d.oneLine_display_iff]
      exact and_iff_right ⟨hpath, by decide⟩
    · simp at hwarning
  · intro hkinds d hd
    obtain ⟨p, hp, hlabel⟩ := Diagnostic.exists_place_of_mem_all hd
    rw [d.oneLine_display_iff, and_self, Diagnostic.oneLine_message_iff hlabel]
    cases herror : p.node.label.error with
    | true => exact .inl rfl
    | false => exact .inr (hkinds p hp (Diagnostic.missing_of_ofLabel? hlabel herror))

/-- A source with misplaced text on two lines, and with a semicolon missing. -/
def strayed : SourceUnit where
  path := "unit.c"
  dialect := .c
  source := .ofString "int a; )\n) int b"
  tree :=
    .node ⟨"translation_unit", none, true, false, false, true, 0, 16⟩
      [.node ⟨"declaration", none, true, false, false, false, 0, 6⟩ [],
       .node ⟨"ERROR", none, true, true, false, true, 7, 10⟩
         [.node ⟨")", none, false, false, false, false, 7, 8⟩ [],
          .node ⟨")", none, false, false, false, false, 9, 10⟩ []],
       .node ⟨"declaration", none, true, false, false, true, 11, 16⟩
         [.node ⟨";", none, false, false, true, true, 16, 16⟩ []]]
  options := .standard

theorem diagnostics_on_one_line_strayed :
    (∀ p : Place, p.In strayed.tree → p.node.label.missing = true → Text.OneLine p.node.kind) ∧
      strayed.diagnostics.map Diagnostic.message = ["unexpected ') )'", "expected ';'"] ∧
      ∀ d ∈ strayed.diagnostics, Text.OneLine d.message ∧ Text.OneLine d.display := by
  have hkinds : ∀ p : Place, p.In strayed.tree → p.node.label.missing = true →
      Text.OneLine p.node.kind := by
    have hplaces : ∀ p ∈ strayed.tree.places, p.node.label.missing = true →
        Text.OneLine p.node.kind := by decide
    intro p hp
    exact hplaces p (Node.mem_places_iff.2 hp)
  have hall := Diagnostic.all_eq strayed.source strayed.tree
  refine ⟨hkinds, ?_, (diagnostics_on_one_line strayed).2.2 hkinds⟩
  rw [diagnostics, hall]
  decide

/-- A conditional in which a second condition is not followed by the end of its line. -/
def unended : SourceUnit where
  path := "unit.c"
  dialect := .c
  source := .ofString "#if A\n#elif B #endif"
  tree :=
    .node ⟨"translation_unit", none, true, false, false, true, 0, 20⟩
      [.node ⟨"preproc_if", none, true, false, false, true, 0, 20⟩
        [.node ⟨"#if", none, false, false, false, false, 0, 3⟩ [],
         .node ⟨"identifier", some "condition", true, false, false, false, 4, 5⟩ [],
         .node ⟨"\n", none, false, false, false, false, 5, 6⟩ [],
         .node ⟨"preproc_elif", some "alternative", true, false, false, true, 6, 13⟩
          [.node ⟨"#elif", none, false, false, false, false, 6, 11⟩ [],
           .node ⟨"identifier", some "condition", true, false, false, false, 12, 13⟩ [],
           .node ⟨"\n", none, false, false, true, true, 13, 13⟩ []],
         .node ⟨"#endif", none, false, false, false, false, 14, 20⟩ []]]
  options := .standard

/-- The missing token is a line feed, and its message shows it. -/
theorem message_broken_unended :
    ¬∀ d ∈ unended.diagnostics, Text.OneLine d.message := by
  have hall := Diagnostic.all_eq unended.source unended.tree
  rw [diagnostics, hall]
  decide

end SourceUnit

end CodeCursor
