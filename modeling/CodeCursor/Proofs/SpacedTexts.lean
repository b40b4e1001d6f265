import CodeCursor.Text.Affix
import CodeCursor.Text.Blank
import Mathlib.Data.List.Basic
import Mathlib.Data.List.TakeWhile

/-!
# Texts written with blanks

One sequence of tokens can be written in many ways, with blanks between them.  What is left of such
a text when it is trimmed and closed up does not depend on the blanks.  Its words do, but only on
where the blanks are: with one space between them they are read back as they were.
-/

namespace CodeCursor.Text

theorem compact_append (text more : List Char) :
    compact (text ++ more) = compact text ++ compact more :=
  List.filter_append text more

theorem compact_of_blank {text : List Char} (h : ∀ c ∈ text, isBlank c = true) :
    compact text = [] :=
  List.filter_eq_nil_iff.2 fun c hc => by simp [h c hc]

theorem compact_of_plain {text : List Char} (h : ∀ c ∈ text, isBlank c = false) :
    compact text = text :=
  List.filter_eq_self.2 fun c hc => by simp [h c hc]

/-- A text that writes the tokens in order, with any blanks after each of them. -/
inductive Spaced : List (List Char) → List Char → Prop
  | done : Spaced [] []
  | token (token : List Char) {tokens : List (List Char)} {blanks text : List Char}
      (blank : ∀ c ∈ blanks, isBlank c = true) (rest : Spaced tokens text) :
      Spaced (token :: tokens) (token ++ blanks ++ text)

namespace Spaced

variable {tokens : List (List Char)} {text : List Char}

/-- A text that writes two sequences of tokens is one for each of them. -/
theorem exists_append {before after : List (List Char)} (h : Spaced (before ++ after) text) :
    ∃ left right, text = left ++ right ∧ Spaced before left ∧ Spaced after right := by
  induction before generalizing text with
  | nil => exact ⟨[], text, rfl, .done, h⟩
  | cons token before ih =>
    rw [List.cons_append] at h
    cases h with
    | @token _ _ blanks _ hblank hrest =>
      obtain ⟨left, right, rfl, hleft, hright⟩ := ih hrest
      refine ⟨token ++ blanks ++ left, right, ?_, .token token hblank hleft, hright⟩
      simp only [List.append_assoc]

/-- A character of the text is a blank or belongs to a token. -/
theorem mem_text (h : Spaced tokens text) {c : Char} (hc : c ∈ text) :
    isBlank c = true ∨ ∃ token ∈ tokens, c ∈ token := by
  induction h with
  | done => simp at hc
  | token token hblank hrest ih =>
    rw [List.mem_append, List.mem_append] at hc
    rcases hc with (hc | hc) | hc
    · exact .inr ⟨token, List.mem_cons_self, hc⟩
    · exact .inl (hblank c hc)
    · rcases ih hc with hb | ⟨other, hother, hc⟩
      · exact .inl hb
      · exact .inr ⟨other, List.mem_cons_of_mem _ hother, hc⟩

/-- Closing the text up leaves the tokens. -/
theorem compact_eq (h : Spaced tokens text)
    (hplain : ∀ token ∈ tokens, ∀ c ∈ token, isBlank c = false) :
    compact text = tokens.flatten := by
  induction h with
  | done => rfl
  | token token hblank hrest ih =>
    obtain ⟨htoken, htokens⟩ := List.forall_mem_cons.1 hplain
    rw [compact_append, compact_append, compact_of_plain htoken, compact_of_blank hblank,
      List.append_nil, ih htokens, List.flatten_cons]

end Spaced

theorem pieces_append (text : List Char) {c : Char} (hc : isBlank c = true) (more : List Char) :
    pieces (text ++ c :: more) = pieces text ++ pieces more := by
  induction text with
  | nil => simp [pieces, hc]
  | cons d rest ih =>
    rw [List.cons_append, pieces, pieces, ih]
    split
    · rfl
    · obtain ⟨piece, others, hpieces⟩ := List.exists_cons_of_ne_nil (pieces_ne_nil rest)
      rw [hpieces]
      rfl

/-- No word goes on beyond a blank. -/
theorem words_append (text : List Char) {c : Char} (hc : isBlank c = true) (more : List Char) :
    words (text ++ c :: more) = words text ++ words more := by
  rw [words, pieces_append text hc, List.filter_append]
  rfl

theorem words_cons_of_blank {c : Char} (hc : isBlank c = true) (rest : List Char) :
    words (c :: rest) = words rest :=
  words_append [] hc rest

theorem words_blank_append {blanks : List Char} (hblanks : ∀ c ∈ blanks, isBlank c = true)
    (text : List Char) : words (blanks ++ text) = words text := by
  induction blanks with
  | nil => rfl
  | cons c rest ih =>
    obtain ⟨hc, hrest⟩ := List.forall_mem_cons.1 hblanks
    rw [List.cons_append, words_cons_of_blank hc, ih hrest]

theorem words_append_blank {blanks : List Char} (hblanks : ∀ c ∈ blanks, isBlank c = true)
    (text : List Char) : words (text ++ blanks) = words text := by
  cases blanks with
  | nil => rw [List.append_nil]
  | cons c rest =>
    obtain ⟨hc, hrest⟩ := List.forall_mem_cons.1 hblanks
    have hnone : words rest = [] := by
      have hrest := words_blank_append hrest []
      rwa [List.append_nil] at hrest
    rw [words_append text hc, hnone, List.append_nil]

theorem pieces_of_plain {text : List Char} (hplain : ∀ c ∈ text, isBlank c = false) :
    pieces text = [text] := by
  induction text with
  | nil => rfl
  | cons c rest ih =>
    obtain ⟨hc, hrest⟩ := List.forall_mem_cons.1 hplain
    rw [pieces, hc, ih hrest]
    rfl

theorem words_of_plain {text : List Char} (hne : text ≠ [])
    (hplain : ∀ c ∈ text, isBlank c = false) : words text = [text] := by
  rw [words, pieces_of_plain hplain]
  simp [hne]

theorem not_isBlank_of_mem_pieces {text piece : List Char} (h : piece ∈ pieces text) :
    ∀ c ∈ piece, isBlank c = false := by
  induction text generalizing piece with
  | nil => simp_all [pieces]
  | cons d rest ih =>
    rw [pieces] at h
    split at h
    · rcases List.mem_cons.1 h with rfl | h
      · simp
      · exact ih h
    · rename_i hd
      obtain ⟨first, others, hpieces⟩ := List.exists_cons_of_ne_nil (pieces_ne_nil rest)
      rw [hpieces] at h ih
      rcases List.mem_cons.1 h with rfl | h
      · exact List.forall_mem_cons.2 ⟨eq_false_of_ne_true hd, ih List.mem_cons_self⟩
      · exact ih (List.mem_cons_of_mem _ h)

theorem of_mem_words {text word : List Char} (h : word ∈ words text) :
    word ≠ [] ∧ ∀ c ∈ word, isBlank c = false := by
  obtain ⟨hpiece, hne⟩ := List.mem_filter.1 h
  exact ⟨by simpa using hne, not_isBlank_of_mem_pieces hpiece⟩

/-- One space between words is enough to read them back. -/
theorem words_intercalate {list : List (List Char)}
    (h : ∀ word ∈ list, word ≠ [] ∧ ∀ c ∈ word, isBlank c = false) :
    words ([' '].intercalate list) = list := by
  induction list with
  | nil => rfl
  | cons word rest ih =>
    obtain ⟨⟨hne, hplain⟩, hrest⟩ := List.forall_mem_cons.1 h
    cases rest with
    | nil => simpa [List.intercalate] using words_of_plain hne hplain
    | cons next others =>
      have hjoin : [' '].intercalate (word :: next :: others) =
          word ++ ' ' :: [' '].intercalate (next :: others) := by
        simp [List.intercalate]
      rw [hjoin, words_append word (by decide), words_of_plain hne hplain, ih hrest]
      rfl

theorem words_spaced (text : List Char) : words (spaced text) = words text :=
  words_intercalate fun _ h => of_mem_words h

theorem spaced_eq_spaced_iff {text other : List Char} :
    spaced text = spaced other ↔ words text = words other := by
  constructor
  · intro h
    rw [← words_spaced text, ← words_spaced other, h]
  · intro h
    rw [spaced, spaced, h]

theorem dropWhile_of_head? {α : Type} {drop : α → Bool} {rest : List α}
    (hstop : ∀ c ∈ rest.head?, drop c = false) : rest.dropWhile drop = rest := by
  cases rest with
  | nil => rfl
  | cons c rest => simp [hstop c rfl]

theorem dropWhile_exact {α : Type} {drop : α → Bool} {left rest : List α}
    (hleft : ∀ c ∈ left, drop c = true) (hstop : ∀ c ∈ rest.head?, drop c = false) :
    (left ++ rest).dropWhile drop = rest := by
  rw [List.dropWhile_append_of_pos hleft, dropWhile_of_head? hstop]

section Trimming

variable {drop : Char → Bool} {left text right : List Char}

theorem trimOf_append_left (text : List Char) (hleft : ∀ c ∈ left, drop c = true) :
    trimOf drop (left ++ text) = trimOf drop text := by
  rw [trimOf, trimOf, List.dropWhile_append_of_pos hleft]

theorem trimOf_append_right (text : List Char) (hright : ∀ c ∈ right, drop c = true) :
    trimOf drop (text ++ right) = trimOf drop text := by
  rw [trimOf, trimOf, List.dropWhile_append]
  split
  · rename_i hnone
    rw [List.isEmpty_iff.1 hnone, List.dropWhile_eq_nil_iff.2 hright]
  · rw [List.reverse_append, List.dropWhile_append_of_pos (by simpa using hright)]

theorem trimOf_eq_self (hfirst : ∀ c ∈ text.head?, drop c = false)
    (hlast : ∀ c ∈ text.getLast?, drop c = false) : trimOf drop text = text := by
  rw [← List.head?_reverse] at hlast
  rw [trimOf, dropWhile_of_head? hfirst, dropWhile_of_head? hlast, List.reverse_reverse]

/-- Trimming stops at the first and at the last character that is not dropped. -/
theorem trimOf_append (hleft : ∀ c ∈ left, drop c = true) (hright : ∀ c ∈ right, drop c = true)
    (hfirst : ∀ c ∈ text.head?, drop c = false) (hlast : ∀ c ∈ text.getLast?, drop c = false) :
    trimOf drop (left ++ text ++ right) = text := by
  rw [trimOf_append_right _ hright, trimOf_append_left _ hleft, trimOf_eq_self hfirst hlast]

end Trimming

/-- What is trimmed off a text are blanks, and what remains does not begin with one. -/
theorem exists_trim (text : List Char) :
    ∃ left right, text = left ++ trim text ++ right ∧ (∀ c ∈ left, isBlank c = true) ∧
      (∀ c ∈ right, isBlank c = true) ∧ ∀ c ∈ (trim text).head?, isBlank c = false := by
  have hleft := List.takeWhile_append_dropWhile (p := isBlank) (l := text)
  have hright :=
    List.takeWhile_append_dropWhile (p := isBlank) (l := (text.dropWhile isBlank).reverse)
  have hrest : text.dropWhile isBlank =
      trim text ++ ((text.dropWhile isBlank).reverse.takeWhile isBlank).reverse := by
    rw [trim, trimOf, ← List.reverse_append, hright, List.reverse_reverse]
  refine ⟨text.takeWhile isBlank, ((text.dropWhile isBlank).reverse.takeWhile isBlank).reverse,
    ?_, fun c hc => List.mem_takeWhile_imp hc,
    fun c hc => List.mem_takeWhile_imp (List.mem_reverse.1 hc), ?_⟩
  · rw [List.append_assoc, ← hrest, hleft]
  · intro c hc
    obtain ⟨more, htrim⟩ := List.head?_eq_some_iff.1 hc
    have hhead : (text.dropWhile isBlank).head? = some c := by
      rw [hrest, htrim]
      rfl
    have hstop := List.head?_dropWhile_not isBlank text
    rwa [hhead] at hstop

theorem compact_trim (text : List Char) : compact (trim text) = compact text := by
  obtain ⟨left, right, htext, hleft, hright, -⟩ := exists_trim text
  conv_rhs => rw [htext, compact_append, compact_append, compact_of_blank hleft,
    compact_of_blank hright, List.nil_append, List.append_nil]

theorem words_trim (text : List Char) : words (trim text) = words text := by
  obtain ⟨left, right, htext, hleft, hright, -⟩ := exists_trim text
  conv_rhs => rw [htext, words_append_blank hright, words_blank_append hleft]

theorem head?_trim (text : List Char) : (trim text).head? = (compact text).head? := by
  obtain ⟨-, -, -, -, -, hhead⟩ := exists_trim text
  rw [← compact_trim]
  cases htrim : trim text with
  | nil => rfl
  | cons c rest =>
    rw [htrim] at hhead
    simp [compact, hhead c rfl]

/-- A beginning that stands once is dropped once. -/
theorem dropRepeated_append {opening text : List Char} (hne : opening ≠ [])
    (honce : ∀ rest, opening ++ rest ≠ text) : dropRepeated opening (opening ++ text) = text := by
  have hshorter : text.length < (opening ++ text).length := by
    rw [List.length_append]
    have := List.length_pos_iff.2 hne
    omega
  have hrest : opening.isPrefixOf? (opening ++ text) = some text :=
    List.isPrefixOf?_eq_some_iff_append_eq.2 rfl
  have hnone : opening.isPrefixOf? text = none := by
    rw [Option.eq_none_iff_forall_not_mem]
    intro rest hmem
    exact honce rest (List.isPrefixOf?_eq_some_iff_append_eq.1 hmem)
  rw [dropRepeated, hrest]
  simp only [hshorter, if_true]
  rw [dropRepeated, hnone]

end CodeCursor.Text
