import CodeCursor.Comment.Brief
import CodeCursor.Proofs.SpacedTexts

/-!
# The lines of a comment

What a line of a comment says does not depend on the blanks around it, on how it ends, or on
whether the comment is closed behind it.  A comment is read line by line, so it is enough to know
what each of its rows says, where a row is a line without the blanks around it.
-/

namespace CodeCursor

namespace Text

theorem isBlank_of_space : ∀ c ∈ [' '], isBlank c = true :=
  List.forall_mem_singleton.2 rfl

theorem trim_append_left {left : List Char} (text : List Char)
    (hleft : ∀ c ∈ left, isBlank c = true) : trim (left ++ text) = trim text :=
  trimOf_append_left text hleft

theorem trim_append_right (text : List Char) {right : List Char}
    (hright : ∀ c ∈ right, isBlank c = true) : trim (text ++ right) = trim text :=
  trimOf_append_right text hright

theorem trim_eq_self {text : List Char} (hfirst : ∀ c ∈ text.head?, isBlank c = false)
    (hlast : ∀ c ∈ text.getLast?, isBlank c = false) : trim text = text :=
  trimOf_eq_self hfirst hlast

/-- A line is read up to its line feed.  A carriage return before the line feed is lost. -/
theorem lines_append_line {line : List Char} (rest : List Char) (hline : '\n' ∉ line) :
    ∃ shown, lines (line ++ '\n' :: rest) = shown :: lines rest ∧
      (line = shown ∨ line = shown ++ ['\r']) := by
  -- Only the last character of the line is read together with the line feed.
  induction line with
  | nil => exact ⟨[], by rw [List.nil_append, lines], .inl rfl⟩
  | cons c line ih =>
    rw [List.mem_cons, not_or] at hline
    obtain ⟨hc, hline⟩ := hline
    obtain ⟨shown, hshown, hends⟩ := ih hline
    by_cases hreturn : c = '\r' ∧ line = []
    · obtain ⟨rfl, rfl⟩ := hreturn
      exact ⟨[], by rw [List.cons_append, List.nil_append, lines], .inr rfl⟩
    · have hstep : lines (c :: (line ++ '\n' :: rest)) = (c :: shown) :: lines rest := by
        rw [lines.eq_4, hshown]
        · exact fun h => hc h.symm
        · intro after hcarriage hfeed
          cases line with
          | nil => exact hreturn ⟨hcarriage, rfl⟩
          | cons d line => exact hline (by simp [(List.cons.inj hfeed).1])
      refine ⟨c :: shown, hstep, ?_⟩
      rcases hends with rfl | rfl
      · exact .inl rfl
      · exact .inr rfl

theorem lines_of_line {line : List Char} (hne : line ≠ []) (hline : '\n' ∉ line) :
    lines line = [line] := by
  induction line with
  | nil => contradiction
  | cons c line ih =>
    rw [List.mem_cons, not_or] at hline
    obtain ⟨hc, hline⟩ := hline
    rw [lines.eq_4]
    · cases line with
      | nil => rfl
      | cons d line => rw [ih (List.cons_ne_nil d line) hline]
    · exact fun h => hc h.symm
    · rintro after - rfl
      exact hline List.mem_cons_self

end Text

namespace Comment

open Text (isBlank trim lines)

/-- The sign that ends a comment. -/
def closer : List Char := "*/".toList

theorem withoutCloser_append (text : List Char) : withoutCloser (text ++ closer) = text := by
  have hreverse : (text ++ closer).reverse = '/' :: '*' :: text.reverse := List.reverse_append
  rw [withoutCloser, hreverse]
  exact List.reverse_reverse text

theorem withoutCloser_of_unclosed {text : List Char} (h : ¬closer <:+ text) :
    withoutCloser text = text := by
  rw [withoutCloser]
  split
  · rename_i rest hreverse
    have hclosed : text = rest.reverse ++ closer := by
      rw [← List.reverse_reverse text, hreverse, List.reverse_cons, List.reverse_cons,
        List.append_assoc]
      rfl
    exact absurd ⟨rest.reverse, hclosed.symm⟩ h
  · rfl

theorem isPrefixOf?_append_space {opener : List Char} (text : List Char) (h : ' ' ∉ opener) :
    opener.isPrefixOf? (text ++ [' ']) = (opener.isPrefixOf? text).map (· ++ [' ']) := by
  induction opener generalizing text with
  | nil => rfl
  | cons c opener ih =>
    rw [List.mem_cons, not_or] at h
    obtain ⟨hc, hopener⟩ := h
    cases text with
    | nil => simp [List.isPrefixOf?, Ne.symm hc]
    | cons d text =>
      simp only [List.cons_append, List.isPrefixOf?, ih text hopener]
      split <;> rfl

theorem findSome?_append_space {marks : List (List Char)} (text : List Char)
    (h : ∀ mark ∈ marks, ' ' ∉ mark) :
    marks.findSome? (·.isPrefixOf? (text ++ [' '])) =
      (marks.findSome? (·.isPrefixOf? text)).map (· ++ [' ']) := by
  induction marks with
  | nil => rfl
  | cons mark marks ih =>
    obtain ⟨hmark, hmarks⟩ := List.forall_mem_cons.1 h
    rw [List.findSome?_cons, List.findSome?_cons, isPrefixOf?_append_space text hmark]
    cases mark.isPrefixOf? text with
    | none => exact ih hmarks
    | some rest => rfl

/-- No opener reaches over a space. -/
theorem withoutOpener_append_space (text : List Char) :
    withoutOpener (text ++ [' ']) = withoutOpener text ++ [' '] := by
  have hspace : ∀ opener ∈ openers, ' ' ∉ opener := by decide
  rw [withoutOpener, withoutOpener, findSome?_append_space text hspace]
  cases openers.findSome? (·.isPrefixOf? text) <;> rfl

theorem content_append_left {left : List Char} (text : List Char)
    (hleft : ∀ c ∈ left, isBlank c = true) : content (left ++ text) = content text := by
  rw [content, content, Text.trim_append_left text hleft]

theorem content_append_right (text : List Char) {right : List Char}
    (hright : ∀ c ∈ right, isBlank c = true) : content (text ++ right) = content text := by
  rw [content, content, Text.trim_append_right text hright]

/-- What can stand on a line of a comment: no blanks around it, and no end of the comment. -/
structure IsRow (row : List Char) : Prop where
  first : ∀ c ∈ row.head?, isBlank c = false
  last : ∀ c ∈ row.getLast?, isBlank c = false
  oneLine : '\n' ∉ row
  unclosed : ¬closer <:+ row

theorem isRow_iff {row : List Char} :
    IsRow row ↔ row.head?.any isBlank = false ∧ row.getLast?.any isBlank = false ∧
      '\n' ∉ row ∧ ¬closer <:+ row := by
  rw [Option.any_eq_false, Option.any_eq_false]
  exact ⟨fun ⟨first, last, oneLine, unclosed⟩ => ⟨first, last, oneLine, unclosed⟩,
    fun ⟨first, last, oneLine, unclosed⟩ => ⟨first, last, oneLine, unclosed⟩⟩

instance (row : List Char) : Decidable (IsRow row) :=
  decidable_of_iff _ isRow_iff.symm

namespace IsRow

variable {row : List Char}

theorem content_eq (h : IsRow row) :
    content row = trim ((withoutOpener row).dropWhile (· == '*')) := by
  rw [content, Text.trim_eq_self h.first h.last, withoutCloser_of_unclosed h.unclosed]

/-- A row says the same where the comment is closed behind it. -/
theorem content_append_closer (h : IsRow row) :
    content (row ++ ' ' :: closer) = content row := by
  -- Taking off the closer leaves the space before it, which no opener reaches.
  by_cases hne : row = []
  · subst hne
    decide
  · have hhead : (row ++ ' ' :: closer).head? = row.head? := by
      cases row with
      | nil => contradiction
      | cons c row => rfl
    have hlast : ∀ c ∈ (row ++ ' ' :: closer).getLast?, isBlank c = false := by
      rw [List.getLast?_append_of_ne_nil _ (List.cons_ne_nil _ _)]
      rintro _ ⟨⟩
      rfl
    have hsplit : row ++ ' ' :: closer = row ++ [' '] ++ closer := by
      rw [List.append_assoc]
      rfl
    have hstars : (withoutOpener row ++ [' ']).dropWhile (· == '*') =
        (withoutOpener row).dropWhile (· == '*') ++ [' '] := by
      rw [List.dropWhile_append]
      split
      · rename_i hnone
        rw [List.isEmpty_iff.1 hnone]
        rfl
      · rfl
    rw [content, Text.trim_eq_self (by rw [hhead]; exact h.first) hlast, hsplit,
      withoutCloser_append, withoutOpener_append_space, hstars,
      Text.trim_append_right _ Text.isBlank_of_space, h.content_eq]

end IsRow

/-- A text that can be said on a line of a comment. -/
structure IsPhrase (text : List Char) : Prop extends IsRow text where
  nonempty : text ≠ []

instance (text : List Char) : Decidable (IsPhrase text) :=
  decidable_of_iff (IsRow text ∧ text ≠ []) ⟨fun ⟨row, nonempty⟩ => ⟨row, nonempty⟩,
    fun h => ⟨h.toIsRow, h.nonempty⟩⟩

theorem unclosed_append {text : List Char} (mark : List Char) (h : ¬closer <:+ text)
    (hne : text ≠ []) : ¬closer <:+ mark ++ ' ' :: text := by
  induction mark with
  | nil =>
    rw [List.nil_append, List.suffix_cons_iff]
    rintro (hclosed | hclosed)
    · exact absurd (List.cons.inj hclosed).1 (by decide)
    · exact h hclosed
  | cons c mark ih =>
    rw [List.cons_append, List.suffix_cons_iff]
    rintro (hclosed | hclosed)
    · have hlength : 2 = (c :: (mark ++ ' ' :: text)).length := congrArg List.length hclosed
      have hpos := List.length_pos_iff.2 hne
      rw [List.length_cons, List.length_append, List.length_cons] at hlength
      omega
    · exact ih hclosed

/-- A phrase behind a mark and a space makes a row. -/
theorem IsPhrase.isRow_append {text mark : List Char} (h : IsPhrase text) (hne : mark ≠ [])
    (hfirst : ∀ c ∈ mark.head?, isBlank c = false) (hline : '\n' ∉ mark) :
    IsRow (mark ++ ' ' :: text) := by
  have hlast : (mark ++ ' ' :: text).getLast? = text.getLast? := by
    rw [← List.singleton_append, ← List.append_assoc,
      List.getLast?_append_of_ne_nil _ h.nonempty]
  refine ⟨?_, by rw [hlast]; exact h.last, ?_, unclosed_append mark h.unclosed h.nonempty⟩
  · cases mark with
    | nil => contradiction
    | cons c mark => exact hfirst
  · simp [hline, h.oneLine]

end Comment

end CodeCursor
