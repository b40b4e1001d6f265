import CodeCursor.Proofs.CommentStyles

/-!
# Comment marks of any length

Slashes can be repeated at the beginning of a line, and stars at both ends of a block.  Stars at
the beginning of a block are taken off however many they are.  Of slashes no more than three are
taken off, and of stars at the end of a block no more than one: what is left of them stays with
the text.
-/

namespace CodeCursor.Comment

open Text (isBlank trim lines)

/-- A line comment that begins with a number of slashes. -/
def slashed (slashes : Nat) (text : List Char) : List Char :=
  List.replicate slashes '/' ++ ' ' :: text

/-- A block comment on one line with a number of stars on either side of the text. -/
def boxed (before after : Nat) (text : List Char) : List Char :=
  '/' :: List.replicate before '*' ++ ' ' :: text ++ ' ' :: List.replicate after '*' ++ ['/']

theorem brief?_of_line {line : List Char} (hne : line ≠ []) (hline : '\n' ∉ line) :
    brief? line = if content line = [] then none else some (content line) := by
  rw [brief?, firstParagraph, Text.lines_of_line hne hline, List.map_singleton]
  cases content line with
  | nil => rfl
  | cons c said => simp

theorem not_isBlank_of_slash : ∀ c ∈ some '/', isBlank c = false := by
  rintro _ ⟨⟩
  rfl

theorem isRow_slashes (slashes : Nat) : IsRow (List.replicate slashes '/') := by
  have hplain : ∀ c ∈ List.replicate slashes '/', c = '/' := fun _ hc => List.eq_of_mem_replicate hc
  refine ⟨?_, ?_, ?_, ?_⟩
  · intro c hc
    rw [hplain c (List.mem_of_head? hc)]
    decide
  · intro c hc
    rw [hplain c (List.mem_of_getLast? hc)]
    decide
  · intro hfeed
    exact absurd (hplain _ hfeed) (by decide)
  · intro hclosed
    exact absurd (hplain '*' (hclosed.subset (by decide))) (by decide)

/-- The first three of four or more slashes are taken for the opener. -/
theorem content_of_slashes {more : Nat} {rest : List Char}
    (h : IsRow (List.replicate (more + 4) '/' ++ rest)) :
    content (List.replicate (more + 4) '/' ++ rest) = List.replicate (more + 1) '/' ++ rest := by
  have hopener : withoutOpener (List.replicate (more + 4) '/' ++ rest) =
      '/' :: (List.replicate more '/' ++ rest) := rfl
  have hlast : (List.replicate (more + 4) '/' ++ rest).getLast? =
      (List.replicate (more + 1) '/' ++ rest).getLast? :=
    List.getLast?_append_of_ne_nil "///".toList (List.cons_ne_nil '/' _)
  have htrim : trim (List.replicate (more + 1) '/' ++ rest) =
      List.replicate (more + 1) '/' ++ rest :=
    Text.trim_eq_self not_isBlank_of_slash (by rw [← hlast]; exact h.last)
  rw [h.content_eq, hopener]
  exact htrim

theorem slashes_cases {slashes : Nat} (h : 2 ≤ slashes) :
    slashes = 2 ∨ slashes = 3 ∨ ∃ more, slashes = more + 4 := by
  by_cases hmany : 4 ≤ slashes
  · exact .inr (.inr ⟨slashes - 4, by omega⟩)
  · omega

theorem content_slashed {slashes : Nat} {text : List Char} (h : IsPhrase text)
    (hslashes : 2 ≤ slashes) :
    IsRow (slashed slashes text) ∧ content (slashed slashes text) =
      if slashes ≤ 3 then text else slashed (slashes - 3) text := by
  have hentry : ∀ said ∈ some text, IsPhrase said := by
    rintro _ ⟨⟩
    exact h
  rcases slashes_cases hslashes with rfl | rfl | ⟨more, rfl⟩
  · exact isRow_marked (by decide : "//".toList ∈ marks) hentry
  · exact isRow_marked (by decide : "///".toList ∈ marks) hentry
  · have hrow : IsRow (slashed (more + 4) text) :=
      h.isRow_append (List.cons_ne_nil _ _) (isRow_slashes _).first (isRow_slashes _).oneLine
    refine ⟨hrow, ?_⟩
    rw [if_neg (by omega)]
    exact content_of_slashes hrow

theorem content_slashes {slashes : Nat} (hslashes : 2 ≤ slashes) :
    content (List.replicate slashes '/') = List.replicate (slashes - 3) '/' := by
  rcases slashes_cases hslashes with rfl | rfl | ⟨more, rfl⟩
  · rfl
  · rfl
  · have hrow := isRow_slashes (more + 4)
    rw [← List.append_nil (List.replicate (more + 4) '/')] at hrow ⊢
    rw [content_of_slashes hrow, List.append_nil]
    rfl

/-- However many stars follow the slash, all of them are taken off. -/
theorem dropWhile_boxed (more : Nat) (rest : List Char) :
    (withoutOpener ('/' :: List.replicate (more + 1) '*' ++ ' ' :: rest)).dropWhile (· == '*') =
      ' ' :: rest := by
  have hstars : ∀ stars : Nat,
      (List.replicate stars '*' ++ ' ' :: rest).dropWhile (· == '*') = ' ' :: rest := by
    intro stars
    apply Text.dropWhile_exact
    · exact fun c hc => beq_iff_eq.2 (List.eq_of_mem_replicate hc)
    · rintro _ ⟨⟩
      rfl
  -- One star or two belong to the opener; from the third on they are dropped as decoration.
  rcases more with _ | _ | more
  · rfl
  · rfl
  · exact hstars more.succ

theorem boxed_eq (before more : Nat) (text : List Char) :
    boxed before (more + 1) text =
      '/' :: List.replicate before '*' ++ ' ' :: (text ++ ' ' :: List.replicate more '*') ++
        closer := by
  rw [boxed, List.replicate_succ']
  simp [closer]

theorem content_boxed {before after : Nat} {text : List Char} (h : IsPhrase text)
    (hbefore : 1 ≤ before) (hafter : 1 ≤ after) :
    content (boxed before after text) =
      if after = 1 then text else text ++ ' ' :: List.replicate (after - 1) '*' := by
  obtain ⟨first, rfl⟩ := Nat.exists_eq_add_of_le' hbefore
  obtain ⟨last, rfl⟩ := Nat.exists_eq_add_of_le' hafter
  have htrim : trim (boxed (first + 1) (last + 1) text) = boxed (first + 1) (last + 1) text := by
    apply Text.trim_eq_self
    · exact not_isBlank_of_slash
    · rw [boxed, List.getLast?_concat]
      exact not_isBlank_of_slash
  have hleft : trim (' ' :: (text ++ ' ' :: List.replicate last '*')) =
      trim (text ++ ' ' :: List.replicate last '*') := Text.trim_append_left _ Text.isBlank_of_space
  rw [content, htrim, boxed_eq, withoutCloser_append, dropWhile_boxed, hleft]
  cases last with
  | zero => rw [if_pos rfl, List.replicate_zero, Text.trim_append_right text Text.isBlank_of_space,
      Text.trim_eq_self h.first h.last]
  | succ more =>
    rw [if_neg (by omega), Nat.add_sub_cancel]
    apply Text.trim_eq_self
    · rw [List.head?_append_of_ne_nil _ h.nonempty]
      exact h.first
    · rw [List.replicate_succ', ← List.cons_append, ← List.append_assoc, List.getLast?_concat]
      rintro _ ⟨⟩
      rfl

/-- A comment says its text alone behind two or three slashes, and between stars of which one
closes it.  Slashes beyond the third stay before the text, and stars before the closing one stay
behind it.  A line of slashes alone says nothing, or the slashes beyond the third. -/
theorem brief_of_long_marks {text : List Char} (h : IsPhrase text) {slashes before after : Nat}
    (hslashes : 2 ≤ slashes) (hbefore : 1 ≤ before) (hafter : 1 ≤ after) :
    brief? (slashed slashes text) =
      some (if slashes ≤ 3 then text else slashed (slashes - 3) text) ∧
    brief? (boxed before after text) =
      some (if after = 1 then text else text ++ ' ' :: List.replicate (after - 1) '*') ∧
    brief? (List.replicate slashes '/') =
      if slashes ≤ 3 then none else some (List.replicate (slashes - 3) '/') := by
  refine ⟨?_, ?_, ?_⟩
  · obtain ⟨hrow, hcontent⟩ := content_slashed h hslashes
    have hne : slashed slashes text ≠ [] := by simp [slashed]
    rw [brief?_of_line hne hrow.oneLine, hcontent, if_neg]
    split
    · exact h.nonempty
    · simp [slashed]
  · have hline : '\n' ∉ boxed before after text := by
      simp [boxed, h.oneLine]
    have hne : boxed before after text ≠ [] := List.cons_ne_nil _ _
    rw [brief?_of_line hne hline, content_boxed h hbefore hafter, if_neg]
    split
    · exact h.nonempty
    · simp
  · have hne : List.replicate slashes '/' ≠ [] := by
      rw [Ne, List.replicate_eq_nil_iff]
      omega
    rw [brief?_of_line hne (isRow_slashes slashes).oneLine, content_slashes hslashes]
    by_cases hfew : slashes ≤ 3
    · rw [if_pos hfew, if_pos ((List.replicate_eq_nil_iff _).2 (by omega))]
    · rw [if_neg hfew, if_neg]
      rw [List.replicate_eq_nil_iff]
      omega

/-- One slash of four and one star of two stay. -/
theorem brief_of_long_marks_note :
    IsPhrase "note".toList ∧
    brief? (slashed 4 "note".toList) = some "/ note".toList ∧
    brief? (boxed 3 2 "note".toList) = some "note *".toList ∧
    brief? (List.replicate 4 '/') = some ['/'] := by
  have hphrase : IsPhrase "note".toList := by decide
  exact ⟨hphrase, brief_of_long_marks hphrase (by decide : 2 ≤ 4) (by decide : 1 ≤ 3)
    (by decide : 1 ≤ 2)⟩

/-- Marks of some lengths are not taken off. -/
theorem long_marks_kept :
    brief? "//// note".toList ≠ some "note".toList ∧
    brief? "/*** note **/".toList ≠ some "note".toList ∧
    brief? "////".toList ≠ none := by
  decide

end CodeCursor.Comment
