import CodeCursor.Diagnostic
import CodeCursor.Proofs.SpacedTexts

/-!
# Snippets of misplaced text

The message for text that could not be placed shows its words, and of a long text only the first
characters.  The cut is made by a count of bytes that is found by a count of characters, and it
always falls where two characters meet.  So the message depends on nothing but the words.
-/

namespace CodeCursor

namespace Text

/-- Words that a text is made of: blanks stand around them, and none can be made longer. -/
inductive HasWords : List (List Char) → List Char → Prop
  | none {blanks : List Char} (blank : ∀ c ∈ blanks, isBlank c = true) : HasWords [] blanks
  | word {list : List (List Char)} {blanks word text : List Char}
      (blank : ∀ c ∈ blanks, isBlank c = true) (nonempty : word ≠ [])
      (plain : ∀ c ∈ word, isBlank c = false) (ends : ∀ c ∈ text.head?, isBlank c = true)
      (rest : HasWords list text) : HasWords (word :: list) (blanks ++ word ++ text)

theorem words_append_of_ends {word text : List Char} (hne : word ≠ [])
    (hplain : ∀ c ∈ word, isBlank c = false) (hends : ∀ c ∈ text.head?, isBlank c = true) :
    words (word ++ text) = word :: words text := by
  cases text with
  | nil => rw [List.append_nil, words_of_plain hne hplain, words, pieces]; rfl
  | cons c rest =>
    have hc : isBlank c = true := hends c rfl
    rw [words_append word hc, words_of_plain hne hplain, words_cons_of_blank hc]
    rfl

theorem HasWords.words_eq {list : List (List Char)} {text : List Char}
    (h : HasWords list text) : words text = list := by
  induction h with
  | none hblank =>
    have hwords := words_append_blank hblank []
    rwa [List.nil_append] at hwords
  | word hblank hne hplain hends _ ih =>
    rw [List.append_assoc, words_blank_append hblank, words_append_of_ends hne hplain hends, ih]

/-- Every text is made of words. -/
theorem exists_hasWords (text : List Char) : ∃ list, HasWords list text := by
  have hblanks := List.takeWhile_append_dropWhile (p := isBlank) (l := text)
  cases hrest : text.dropWhile isBlank with
  | nil =>
    refine ⟨[], .none fun c hc => ?_⟩
    exact List.dropWhile_eq_nil_iff.1 hrest c hc
  | cons first after =>
    have hfirst : isBlank first = false := by
      have hstop := List.head?_dropWhile_not isBlank text
      rwa [hrest] at hstop
    have hword := List.takeWhile_append_dropWhile (p := fun c => !isBlank c) (l := after)
    have hshorter : (after.dropWhile fun c => !isBlank c).length < text.length := by
      rw [← hblanks, hrest, List.length_append, List.length_cons]
      have := after.length_dropWhile_le fun c => !isBlank c
      omega
    obtain ⟨list, hlist⟩ := exists_hasWords (after.dropWhile fun c => !isBlank c)
    refine ⟨(first :: after.takeWhile fun c => !isBlank c) :: list, ?_⟩
    have hsplit : text = text.takeWhile isBlank ++ (first :: after.takeWhile fun c => !isBlank c) ++
        after.dropWhile fun c => !isBlank c := by
      rw [List.append_assoc, List.cons_append, hword, ← hrest, hblanks]
    rw [hsplit]
    refine .word (fun c hc => List.mem_takeWhile_imp hc) (List.cons_ne_nil _ _) ?_ ?_ hlist
    · refine List.forall_mem_cons.2 ⟨hfirst, fun c hc => ?_⟩
      simpa using List.mem_takeWhile_imp hc
    · intro c hc
      have hstop := List.head?_dropWhile_not (fun c => !isBlank c) after
      rw [hc] at hstop
      simpa using hstop
termination_by text.length

theorem hasWords_iff {list : List (List Char)} {text : List Char} :
    HasWords list text ↔ list = words text := by
  constructor
  · intro h
    exact h.words_eq.symm
  · rintro rfl
    obtain ⟨list, hlist⟩ := exists_hasWords text
    rwa [hlist.words_eq]

/-- The bytes before a character are those of whole characters. -/
theorem takeBytes?_of_bytesBefore? {text : List Char} {index bytes : Nat}
    (h : bytesBefore? text index = some bytes) : takeBytes? bytes text = some (text.take index) :=
  takeBytes?_eq_some_iff.2
    ⟨⟨text.drop index, (List.take_append_drop index text).symm⟩, (bytesBefore?_eq_some_iff.1 h).2⟩

end Text

namespace Fault

theorem snippet_of_fits {text : List Char} (h : (Text.spaced text).length ≤ snippetLength) :
    snippet text = Text.spaced text := by
  have hnone : Text.bytesBefore? (Text.spaced text) snippetLength = none := by
    rw [Option.eq_none_iff_forall_ne_some]
    intro bytes hbytes
    exact Nat.not_lt.2 h (Text.bytesBefore?_eq_some_iff.1 hbytes).1
  rw [snippet, hnone]

/-- The cut of a long text falls where two characters meet. -/
theorem snippet_of_long {text : List Char} (h : snippetLength < (Text.spaced text).length) :
    ∃ cut, Text.bytesBefore? (Text.spaced text) snippetLength = some cut ∧
      Text.takeBytes? cut (Text.spaced text) = some ((Text.spaced text).take snippetLength) ∧
      snippet text = (Text.spaced text).take snippetLength ++ ['.', '.', '.'] := by
  have hcut := Text.bytesBefore?_eq_some_iff.2 ⟨h, rfl⟩
  have htake := Text.takeBytes?_of_bytesBefore? hcut
  refine ⟨_, hcut, htake, ?_⟩
  rw [snippet, hcut]
  simp only [htake, Option.getD_some]

/-- The message shows all words or the first characters of them. -/
theorem message_unexpected (text : List Char) :
    ((Text.spaced text).length ≤ snippetLength →
      (unexpected text).message = "unexpected '" ++ String.ofList (Text.spaced text) ++ "'") ∧
    (snippetLength < (Text.spaced text).length →
      (unexpected text).message =
        "unexpected '" ++ String.ofList ((Text.spaced text).take snippetLength) ++ "...'") := by
  constructor
  · intro hfits
    rw [message, snippet_of_fits hfits]
  · intro hlong
    obtain ⟨-, -, -, hsnippet⟩ := snippet_of_long hlong
    have hdots : String.ofList ['.', '.', '.'] ++ "'" = "...'" := rfl
    rw [message, hsnippet, String.ofList_append, ← String.append_assoc, String.append_assoc, hdots]

/-- Blanks around and between the same words make no difference to the message. -/
theorem message_unexpected_congr {list : List (List Char)} {text other : List Char}
    (h : Text.HasWords list text) (hother : Text.HasWords list other) :
    (unexpected other).message = (unexpected text).message := by
  have hspaced : Text.spaced other = Text.spaced text := by
    rw [Text.spaced_eq_spaced_iff, h.words_eq, hother.words_eq]
  rw [message, message, snippet, snippet, hspaced]

end Fault

namespace Diagnostic

theorem ofLabel?_of_error (source : Source) {label : Label} (herror : label.error = true) :
    ofLabel? source label = some ⟨.error, source.locate label.start,
      .unexpected (source.slice label.start label.stop)⟩ := by
  unfold ofLabel?
  exact if_pos herror

/-- What is said of misplaced text depends on its words alone.  They are shown with one space
between neighbours, in full if that takes at most 32 characters, and else up to the byte where the
character after the first 32 begins. -/
theorem message_of_words (source : Source) {label : Label} (herror : label.error = true) :
    ∃ d list shown, ofLabel? source label = some d ∧
      Text.HasWords list (source.slice label.start label.stop) ∧
      (∀ other, Text.HasWords other (source.slice label.start label.stop) → other = list) ∧
      shown = [' '].intercalate list ∧
      (shown.length ≤ 32 → d.message = "unexpected '" ++ String.ofList shown ++ "'") ∧
      (32 < shown.length →
        (∃ cut, Text.bytesBefore? shown 32 = some cut ∧
          Text.takeBytes? cut shown = some (shown.take 32)) ∧
        d.message = "unexpected '" ++ String.ofList (shown.take 32) ++ "...'") ∧
      ∀ (source' : Source) (label' : Label) (d' : Diagnostic), label'.error = true →
        ofLabel? source' label' = some d' →
        Text.HasWords list (source'.slice label'.start label'.stop) → d'.message = d.message := by
  obtain ⟨hfits, hlong⟩ := Fault.message_unexpected (source.slice label.start label.stop)
  refine ⟨_, Text.words (source.slice label.start label.stop), _, ofLabel?_of_error source herror,
    Text.hasWords_iff.2 rfl, fun other hother => Text.hasWords_iff.1 hother, rfl, hfits, ?_, ?_⟩
  · intro hlength
    obtain ⟨cut, hcut, htake, -⟩ := Fault.snippet_of_long hlength
    exact ⟨⟨cut, hcut, htake⟩, hlong hlength⟩
  · intro source' label' d' herror' hd' hsame
    obtain rfl := Option.some.inj ((ofLabel?_of_error source' herror').symm.trans hd')
    exact Fault.message_unexpected_congr (Text.hasWords_iff.2 rfl) hsame

/-- Misplaced text of which each character but the blanks takes two bytes or more. -/
def wideText : Source :=
  .ofString "λλλ\t λλλλλλλλλλλλ\n→→→→→→→→→→→→→→→→→ "

def wideLabel : Label :=
  ⟨"ERROR", none, true, true, false, true, 0, 85⟩

theorem message_of_words_wide :
    wideLabel.error = true ∧ ∃ d, ofLabel? wideText wideLabel = some d ∧
      d.message = "unexpected 'λλλ λλλλλλλλλλλλ →→→→→→→→→→→→→→→...'" := by
  obtain ⟨d, list, shown, hd, hlist, hunique, rfl, -, hlong, -⟩ :=
    message_of_words wideText (rfl : wideLabel.error = true)
  obtain rfl := Text.hasWords_iff.1 hlist
  exact ⟨rfl, d, hd, (hlong (by decide)).2.trans (by decide)⟩

end Diagnostic

end CodeCursor
