import CodeCursor.Proofs.CommentLines
import Mathlib.Tactic.FinCases

/-!
# Styles of comments

Paragraphs can be written as comments in many styles: each line behind an opener of its own, or
all lines in one block, with or without a star before each.  Reading the gist of a comment undoes
every style, with whatever blanks before the lines and with either kind of line end.
-/

namespace CodeCursor.Comment

open Text (isBlank lines)

/-- The lines of paragraphs in order, with an empty one between two paragraphs. -/
def entries (paragraphs : List (List (List Char))) : List (Option (List Char)) :=
  [none].intercalate (paragraphs.map (·.map some))

/-- An entry behind a mark.  An empty one leaves the mark alone. -/
def marked (mark : List Char) : Option (List Char) → List Char
  | none => mark
  | some text => mark ++ ' ' :: text

def lineOpeners : List (List Char) :=
  ["//".toList, "///".toList, "//!".toList, "///<".toList]

def blockOpeners : List (List Char) :=
  ["/*".toList, "/**".toList, "/*!".toList, "/**<".toList]

/-- A text that is told from a mark where it stands alone on a line. -/
def IsBare (text : List Char) : Prop :=
  ∀ mark ∈ ["*".toList, "//".toList, "/*".toList], ¬mark <+: text

/-- How an entry is written on a line of its own inside a block. -/
inductive BlockLine (paragraphs : List (List (List Char))) :
    (Option (List Char) → List Char) → Prop
  | decorated : BlockLine paragraphs (marked "*".toList)
  | plain (bare : ∀ paragraph ∈ paragraphs, ∀ text ∈ paragraph, IsBare text) :
      BlockLine paragraphs (·.getD [])

/-- The rows of a block that is still open.  The first entry can stand beside the opener. -/
inductive Opened (opener : List Char) (line : Option (List Char) → List Char) :
    List (Option (List Char)) → List (List Char) → Prop
  | apart (entries : List (Option (List Char))) :
      Opened opener line entries (opener :: entries.map line)
  | beside (entry : Option (List Char)) (rest : List (Option (List Char))) :
      Opened opener line (entry :: rest) (marked opener entry :: rest.map line)

/-- The rows of a block and those of the same block when it is closed, on a line of its own or
behind the last row. -/
inductive Closed : List (List Char) → List (List Char) → Prop
  | apart (rows : List (List Char)) : Closed rows (rows ++ [closer])
  | beside (rows : List (List Char)) (last : List Char) :
      Closed (rows ++ [last]) (rows ++ [last ++ ' ' :: closer])

/-- The rows that write the paragraphs in one of the styles. -/
inductive Styled (paragraphs : List (List (List Char))) : List (List Char) → Prop
  | lines {opener : List Char} (opens : opener ∈ lineOpeners) :
      Styled paragraphs ((entries paragraphs).map (marked opener))
  | block {opener : List Char} {line : Option (List Char) → List Char}
      {rows closed : List (List Char)} (opens : opener ∈ blockOpeners)
      (inside : BlockLine paragraphs line) (written : Opened opener line (entries paragraphs) rows)
      (ends : Closed rows closed) : Styled paragraphs closed

/-- Blanks that can stand before or after a row on its line. -/
def IsMargin (blanks : List Char) : Prop :=
  ∀ c ∈ blanks, isBlank c = true ∧ c ≠ '\n'

instance (blanks : List Char) : Decidable (IsMargin blanks) :=
  List.decidableBAll _ blanks

/-- A text that holds the rows on one line each, after any blanks.  A line ends at a line feed or
at a carriage return and a line feed.  The last one need not have its line feed. -/
inductive Laid : List (List Char) → List Char → Prop
  | done : Laid [] []
  | last {indent row carriage : List Char} (blank : IsMargin indent)
      (nonempty : row ≠ []) (ending : carriage ∈ [[], ['\r']]) :
      Laid [row] (indent ++ row ++ carriage)
  | line {indent row carriage text : List Char} {rows : List (List Char)}
      (blank : IsMargin indent) (ending : carriage ∈ [[], ['\r']]) (rest : Laid rows text) :
      Laid (row :: rows) (indent ++ row ++ carriage ++ '\n' :: text)

theorem isMargin_of_carriage : ∀ carriage ∈ [[], ['\r']], IsMargin carriage := by
  decide

theorem Laid.contents {rows : List (List Char)} {text : List Char} (h : Laid rows text)
    (hrows : ∀ row ∈ rows, '\n' ∉ row) : (lines text).map content = rows.map content := by
  have hsame : ∀ {indent row carriage : List Char},
      IsMargin indent → '\n' ∉ row → carriage ∈ [[], ['\r']] →
      '\n' ∉ indent ++ row ++ carriage ∧ content (indent ++ row ++ carriage) = content row := by
    intro indent row carriage hindent hrow hcarriage
    have hend := isMargin_of_carriage carriage hcarriage
    constructor
    · rw [List.mem_append, List.mem_append]
      rintro ((hfeed | hfeed) | hfeed)
      · exact (hindent _ hfeed).2 rfl
      · exact hrow hfeed
      · exact (hend _ hfeed).2 rfl
    · rw [content_append_right _ fun c hc => (hend c hc).1,
        content_append_left _ fun c hc => (hindent c hc).1]
  -- A carriage return that is lost with the line feed would have been trimmed.
  induction h with
  | done => rfl
  | last blank nonempty ending =>
    obtain ⟨hline, hcontent⟩ := hsame blank (hrows _ List.mem_cons_self) ending
    rw [Text.lines_of_line (by simp [nonempty]) hline, List.map_singleton, hcontent]
    rfl
  | line blank ending _ ih =>
    obtain ⟨hrow, hrows⟩ := List.forall_mem_cons.1 hrows
    obtain ⟨hline, hcontent⟩ := hsame blank hrow ending
    obtain ⟨shown, hlines, hshown⟩ := Text.lines_append_line _ hline
    have hreturn : content (shown ++ ['\r']) = content shown :=
      content_append_right shown (List.forall_mem_singleton.2 rfl)
    rw [hlines, List.map_cons, List.map_cons, ih hrows, ← hcontent]
    rcases hshown with hshown | hshown
    · rw [hshown]
    · rw [hshown, hreturn]

theorem entries_cons (paragraph : List (List Char)) (rest : List (List (List Char))) :
    ∃ after, entries (paragraph :: rest) = paragraph.map some ++ after ∧
      (∀ entry ∈ after.head?, entry = none) ∧
      ∀ entry ∈ after, entry = none ∨ entry ∈ entries rest := by
  cases rest with
  | nil => exact ⟨[], by simp [entries], by simp, by simp⟩
  | cons next rest =>
    refine ⟨none :: entries (next :: rest), ?_, by simp, ?_⟩
    · rw [entries, List.map_cons, List.map_cons, List.intercalate_cons_cons, List.append_assoc]
      rfl
    · intro entry hentry
      rcases List.mem_cons.1 hentry with rfl | hentry
      · exact .inl rfl
      · exact .inr hentry

theorem mem_of_mem_entries {paragraphs : List (List (List Char))} {text : List Char}
    (h : some text ∈ entries paragraphs) : ∃ paragraph ∈ paragraphs, text ∈ paragraph := by
  induction paragraphs with
  | nil => simp [entries] at h
  | cons paragraph rest ih =>
    obtain ⟨after, hentries, -, hafter⟩ := entries_cons paragraph rest
    rw [hentries, List.mem_append] at h
    rcases h with h | h
    · obtain ⟨_, htext, hsame⟩ := List.mem_map.1 h
      rw [Option.some.inj hsame] at htext
      exact ⟨paragraph, List.mem_cons_self, htext⟩
    · obtain ⟨other, hother, htext⟩ := ih ((hafter _ h).resolve_left (by simp))
      exact ⟨other, List.mem_cons_of_mem _ hother, htext⟩

/-- The marks behind which an entry can stand. -/
def marks : List (List Char) :=
  "*".toList :: (lineOpeners ++ blockOpeners)

theorem dropWhile_marked {mark : List Char} (h : mark ∈ marks) (text : List Char) :
    (withoutOpener (mark ++ ' ' :: text)).dropWhile (· == '*') = ' ' :: text := by
  fin_cases h <;> rfl

theorem isRow_of_mem_marks :
    ∀ mark ∈ marks, mark ≠ [] ∧ IsRow mark ∧ content mark = [] := by
  decide

theorem isRow_marked {mark : List Char} (hmark : mark ∈ marks) {entry : Option (List Char)}
    (h : ∀ text ∈ entry, IsPhrase text) :
    IsRow (marked mark entry) ∧ content (marked mark entry) = entry.getD [] := by
  obtain ⟨hne, hrow, hcontent⟩ := isRow_of_mem_marks mark hmark
  cases entry with
  | none => exact ⟨hrow, hcontent⟩
  | some text =>
    have hphrase := h text rfl
    have hrow := hphrase.isRow_append hne hrow.first hrow.oneLine
    refine ⟨hrow, ?_⟩
    have hspace : Text.trim (' ' :: text) = Text.trim text :=
      Text.trim_append_left text Text.isBlank_of_space
    rw [marked, hrow.content_eq, dropWhile_marked hmark, hspace,
      Text.trim_eq_self hphrase.first hphrase.last]
    rfl

/-- No opener begins a text that is told from a mark. -/
theorem withoutOpener_of_isBare {text : List Char} (h : IsBare text) :
    withoutOpener text = text := by
  have hbegins : ∀ opener ∈ openers, ∃ mark ∈ ["*".toList, "//".toList, "/*".toList],
      mark <+: opener := by decide
  have hnone : openers.findSome? (·.isPrefixOf? text) = none := by
    rw [List.findSome?_eq_none_iff]
    intro opener hopener
    rw [Option.eq_none_iff_forall_not_mem]
    intro rest hrest
    obtain ⟨mark, hmark, hstart⟩ := hbegins opener hopener
    exact h mark hmark
      (hstart.trans ⟨rest, List.isPrefixOf?_eq_some_iff_append_eq.1 hrest⟩)
  rw [withoutOpener, hnone]
  rfl

theorem content_of_isBare {text : List Char} (h : IsPhrase text) (hbare : IsBare text) :
    content text = text := by
  have hstar : text.dropWhile (· == '*') = text := by
    cases text with
    | nil => rfl
    | cons c text =>
      have hc : c ≠ '*' := by
        rintro rfl
        exact hbare _ List.mem_cons_self ⟨text, rfl⟩
      simp [hc]
  rw [h.content_eq, withoutOpener_of_isBare hbare, hstar, Text.trim_eq_self h.first h.last]

/-- A way to write entries by which the row of each says the entry. -/
def Writes (line : Option (List Char) → List Char) (written : List (Option (List Char))) : Prop :=
  ∀ entry ∈ written, IsRow (line entry) ∧ content (line entry) = entry.getD []

theorem Writes.contents {line : Option (List Char) → List Char}
    {written : List (Option (List Char))} (h : Writes line written) :
    (∀ row ∈ written.map line, IsRow row) ∧
      (written.map line).map content = written.map (·.getD []) := by
  rw [List.forall_mem_map, List.map_map]
  exact ⟨fun entry hentry => (h entry hentry).1,
    List.map_congr_left fun entry hentry => (h entry hentry).2⟩

variable {paragraphs : List (List (List Char))}

theorem writes_marked (hphrases : ∀ paragraph ∈ paragraphs, ∀ text ∈ paragraph, IsPhrase text)
    {mark : List Char} (hmark : mark ∈ marks) : Writes (marked mark) (entries paragraphs) := by
  intro entry hentry
  apply isRow_marked hmark
  rintro text rfl
  obtain ⟨paragraph, hparagraph, htext⟩ := mem_of_mem_entries hentry
  exact hphrases paragraph hparagraph text htext

theorem BlockLine.writes {line : Option (List Char) → List Char} (h : BlockLine paragraphs line)
    (hphrases : ∀ paragraph ∈ paragraphs, ∀ text ∈ paragraph, IsPhrase text) :
    Writes line (entries paragraphs) := by
  cases h with
  | decorated => exact writes_marked hphrases List.mem_cons_self
  | plain bare =>
    intro entry hentry
    cases entry with
    | none => decide
    | some text =>
      obtain ⟨paragraph, hparagraph, htext⟩ := mem_of_mem_entries hentry
      have hphrase := hphrases paragraph hparagraph text htext
      exact ⟨hphrase.toIsRow, content_of_isBare hphrase (bare paragraph hparagraph text htext)⟩

/-- The rows of an open block say the entries, after nothing for an opener that stands alone. -/
theorem Opened.contents {opener : List Char} {line : Option (List Char) → List Char}
    {written : List (Option (List Char))} {rows : List (List Char)}
    (h : Opened opener line written rows) (hopener : opener ∈ marks)
    (hfirst : Writes (marked opener) written) (hline : Writes line written) :
    (∀ row ∈ rows, IsRow row) ∧ ∃ before, (∀ said ∈ before, said = []) ∧
      rows.map content = before ++ written.map (·.getD []) := by
  cases h with
  | apart =>
    obtain ⟨-, hrow, hcontent⟩ := isRow_of_mem_marks opener hopener
    obtain ⟨hrows, hcontents⟩ := hline.contents
    refine ⟨List.forall_mem_cons.2 ⟨hrow, hrows⟩, [[]], by simp, ?_⟩
    rw [List.map_cons, hcontent, hcontents]
    rfl
  | beside entry rest =>
    obtain ⟨hrow, hcontent⟩ := hfirst entry List.mem_cons_self
    have hrest : Writes line rest := fun other hother => hline other (List.mem_cons_of_mem _ hother)
    obtain ⟨hrows, hcontents⟩ := hrest.contents
    refine ⟨List.forall_mem_cons.2 ⟨hrow, hrows⟩, [], by simp, ?_⟩
    rw [List.map_cons, hcontent, hcontents]
    rfl

/-- Closing a block changes nothing in what its rows say, but for a last one that says nothing. -/
theorem Closed.contents {rows closed : List (List Char)} (h : Closed rows closed)
    (hrows : ∀ row ∈ rows, IsRow row) :
    (∀ row ∈ closed, '\n' ∉ row) ∧ ∃ after, (∀ said ∈ after, said = []) ∧
      closed.map content = rows.map content ++ after := by
  cases h with
  | apart =>
    refine ⟨?_, [[]], by simp, ?_⟩
    · rw [List.forall_mem_append]
      exact ⟨fun row hrow => (hrows row hrow).oneLine, by decide⟩
    · rw [List.map_append]
      rfl
  | beside before last =>
    rw [List.forall_mem_append, List.forall_mem_singleton] at hrows
    obtain ⟨hbefore, hlast⟩ := hrows
    refine ⟨?_, [], by simp, ?_⟩
    · rw [List.forall_mem_append, List.forall_mem_singleton]
      refine ⟨fun row hrow => (hbefore row hrow).oneLine, ?_⟩
      rw [List.mem_append, not_or]
      exact ⟨hlast.oneLine, by decide⟩
    · rw [List.map_append, List.map_append, List.append_nil, List.map_singleton,
        List.map_singleton, hlast.content_append_closer]

theorem lineOpeners_subset_marks : lineOpeners ⊆ marks := by
  decide

theorem blockOpeners_subset_marks : blockOpeners ⊆ marks := by
  decide

/-- In every style the rows say the entries, with no more than silent rows around them. -/
theorem Styled.contents {rows : List (List Char)} (h : Styled paragraphs rows)
    (hphrases : ∀ paragraph ∈ paragraphs, ∀ text ∈ paragraph, IsPhrase text) :
    (∀ row ∈ rows, '\n' ∉ row) ∧ ∃ before after, (∀ said ∈ before, said = []) ∧
      (∀ said ∈ after, said = []) ∧
      rows.map content = before ++ (entries paragraphs).map (·.getD []) ++ after := by
  cases h with
  | lines opens =>
    obtain ⟨hrows, hcontents⟩ :=
      (writes_marked hphrases (lineOpeners_subset_marks opens)).contents
    refine ⟨fun row hrow => (hrows row hrow).oneLine, [], [], by simp, by simp, ?_⟩
    rw [hcontents, List.nil_append, List.append_nil]
  | block opens inside written ends =>
    have hopener := blockOpeners_subset_marks opens
    obtain ⟨hrows, before, hbefore, hcontents⟩ :=
      written.contents hopener (writes_marked hphrases hopener) (inside.writes hphrases)
    obtain ⟨hfeeds, after, hafter, hclosed⟩ := ends.contents hrows
    exact ⟨hfeeds, before, after, hbefore, hafter, by rw [hclosed, hcontents]⟩

theorem firstParagraph_of_silent {text : List Char}
    (h : ∀ said ∈ (lines text).map content, said = []) : firstParagraph text = [] := by
  have hnone : ((lines text).map content).dropWhile List.isEmpty = [] := by
    rw [List.dropWhile_eq_nil_iff]
    intro said hsaid
    rw [List.isEmpty_iff]
    exact h said hsaid
  rw [firstParagraph, hnone]
  rfl

/-- The first paragraph begins after silent lines and ends before the next one. -/
theorem firstParagraph_of_contents {text : List Char} {before paragraph after : List (List Char)}
    (hcontents : (lines text).map content = before ++ paragraph ++ after)
    (hbefore : ∀ said ∈ before, said = []) (hne : paragraph ≠ [])
    (hparagraph : ∀ said ∈ paragraph, said ≠ []) (hafter : ∀ said ∈ after.head?, said = []) :
    firstParagraph text = paragraph := by
  have hstart : ∀ said ∈ (paragraph ++ after).head?, said.isEmpty = false := by
    cases paragraph with
    | nil => contradiction
    | cons said rest =>
      rintro _ ⟨⟩
      rw [List.isEmpty_eq_false_iff]
      exact hparagraph said List.mem_cons_self
  have hstop : after.takeWhile (!·.isEmpty) = [] := by
    cases after with
    | nil => rfl
    | cons said rest => simp [hafter said rfl]
  have hsaid : ∀ said ∈ paragraph, (!said.isEmpty) = true := by
    intro said hmem
    rw [Bool.not_eq_true', List.isEmpty_eq_false_iff]
    exact hparagraph said hmem
  rw [firstParagraph, hcontents, List.append_assoc,
    Text.dropWhile_exact (fun said hmem => List.isEmpty_iff.2 (hbefore said hmem)) hstart,
    List.takeWhile_append_of_pos hsaid, hstop, List.append_nil]

theorem firstParagraph_eq_headD {text : List Char} {before after : List (List Char)}
    (hcontents : (lines text).map content =
      before ++ (entries paragraphs).map (·.getD []) ++ after)
    (hbefore : ∀ said ∈ before, said = []) (hafter : ∀ said ∈ after, said = [])
    (hsaid : ∀ paragraph ∈ paragraphs, paragraph ≠ [] ∧ ∀ text ∈ paragraph, text ≠ []) :
    firstParagraph text = paragraphs.headD [] := by
  cases paragraphs with
  | nil =>
    apply firstParagraph_of_silent
    rw [hcontents, entries, List.map_nil, List.intercalate_nil, List.map_nil, List.append_nil,
      List.forall_mem_append]
    exact ⟨hbefore, hafter⟩
  | cons paragraph rest =>
    obtain ⟨hne, htexts⟩ := hsaid paragraph List.mem_cons_self
    obtain ⟨more, hentries, hgap, -⟩ := entries_cons paragraph rest
    have hsame : (paragraph.map some).map (fun entry => entry.getD []) = paragraph := by
      rw [List.map_map]
      exact List.map_id paragraph
    rw [hentries, List.map_append, hsame, ← List.append_assoc, List.append_assoc _ _ after]
      at hcontents
    apply firstParagraph_of_contents hcontents hbefore hne htexts
    cases more with
    | nil =>
      intro said hmem
      exact hafter said (List.mem_of_head? hmem)
    | cons entry more =>
      rintro _ ⟨⟩
      rw [hgap entry rfl]
      rfl

/-- The gist of a comment is its first paragraph on one line, in whatever style the paragraphs are
written and however the rows are laid out. -/
theorem brief_of_styled {paragraphs : List (List (List Char))} {rows : List (List Char)}
    {text : List Char}
    (hparagraphs : ∀ paragraph ∈ paragraphs, paragraph ≠ [] ∧ ∀ line ∈ paragraph, IsPhrase line)
    (hstyled : Styled paragraphs rows) (hlaid : Laid rows text) :
    brief? text = paragraphs.head?.map fun paragraph => [' '].intercalate paragraph := by
  obtain ⟨hfeeds, before, after, hbefore, hafter, hcontents⟩ :=
    hstyled.contents fun paragraph hparagraph => (hparagraphs paragraph hparagraph).2
  have hfirst : firstParagraph text = paragraphs.headD [] := by
    apply firstParagraph_eq_headD ((hlaid.contents hfeeds).trans hcontents) hbefore hafter
    intro paragraph hparagraph
    obtain ⟨hne, hphrases⟩ := hparagraphs paragraph hparagraph
    exact ⟨hne, fun line hline => (hphrases line hline).nonempty⟩
  rw [brief?, hfirst]
  cases paragraphs with
  | nil => rfl
  | cons paragraph rest =>
    obtain ⟨line, others, rfl⟩ :=
      List.exists_cons_of_ne_nil (hparagraphs paragraph List.mem_cons_self).1
    rfl

/-- Two paragraphs, the first of two lines. -/
def twoParagraphs : List (List (List Char)) :=
  [["Adds two numbers.".toList, "Exact.".toList], ["Overflow wraps.".toList]]

/-- The paragraphs in a block with stars and both kinds of line end. -/
theorem brief_of_styled_twoParagraphs :
    (∀ paragraph ∈ twoParagraphs, paragraph ≠ [] ∧ ∀ line ∈ paragraph, IsPhrase line) ∧
    ∃ (rows : List (List Char)) (text : List Char), Styled twoParagraphs rows ∧ Laid rows text ∧
      text = "/**\n * Adds two numbers.\r\n * Exact.\n *\n\t* Overflow wraps.\n */".toList ∧
      brief? text = some "Adds two numbers. Exact.".toList := by
  have hparagraphs : ∀ paragraph ∈ twoParagraphs,
      paragraph ≠ [] ∧ ∀ line ∈ paragraph, IsPhrase line := by decide
  have hopened : Opened "/**".toList (marked "*".toList) (entries twoParagraphs)
      ("/**".toList :: (entries twoParagraphs).map (marked "*".toList)) := .apart _
  have hstyled : Styled twoParagraphs _ :=
    .block (by decide) .decorated hopened (.apart _)
  have hlaid : Laid _ _ :=
    @Laid.line [] "/**".toList [] _ _ (by decide) (by decide) <|
    @Laid.line " ".toList "* Adds two numbers.".toList ['\r'] _ _ (by decide) (by decide) <|
    @Laid.line " ".toList "* Exact.".toList [] _ _ (by decide) (by decide) <|
    @Laid.line " ".toList "*".toList [] _ _ (by decide) (by decide) <|
    @Laid.line "\t".toList "* Overflow wraps.".toList [] _ _ (by decide) (by decide) <|
    @Laid.last " ".toList "*/".toList [] (by decide) (by decide) (by decide)
  exact ⟨hparagraphs, _, _, hstyled, hlaid, rfl, brief_of_styled hparagraphs hstyled hlaid⟩

end CodeCursor.Comment
