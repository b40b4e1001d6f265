import CodeCursor.Cursor.Spelling
import CodeCursor.Proofs.Tokens

/-!
# Spellings of operators

The name of an operator is the keyword and the tokens after it, with any blanks between them.  If
the first of these begins with no letter, the blanks do not show in the spelling.  Otherwise each
run of them shows as one space, and since a mark of punctuation needs no blank before it, one
operator can be spelled in several ways.
-/

namespace CodeCursor

namespace Text

/-- A text that is the keyword `operator` and the given tokens after it. -/
def WritesOperator (tokens : List (List Char)) (text : List Char) : Prop :=
  ∃ rest, text = "operator".toList ++ rest ∧ (∀ c ∈ rest.head?, isWordChar c = false) ∧
    Text.tokens rest = tokens

/-- Whether the first of some tokens begins with a letter. -/
def isLettered (tokens : List (List Char)) : Bool :=
  tokens.flatten.head?.any isAlphabetic

/-- The letters of ASCII are the two ranges of the alphabet. -/
theorem mem_or_le_of_mem_alphabeticRanges {range : CharRange} (h : range ∈ alphabeticRanges) :
    range = (0x41, 0x5A) ∨ range = (0x61, 0x7A) ∨ 0xAA ≤ range.1 := by
  have hall : (alphabeticRanges.all fun range =>
      range == (0x41, 0x5A) || range == (0x61, 0x7A) || Nat.ble 0xAA range.1) = true := by
    decide +kernel
  simpa [or_assoc] using List.all_eq_true.1 hall range h

theorem toNat_of_punctuation {c : Char} (h : c ∈ punctuation) :
    c.toNat < 0x41 ∨ (0x5A < c.toNat ∧ c.toNat < 0x61) ∨ (0x7A < c.toNat ∧ c.toNat < 0xAA) := by
  have hall : (punctuation.all fun c => c.toNat < 0x41 || (0x5A < c.toNat && c.toNat < 0x61) ||
      (0x7A < c.toNat && c.toNat < 0xAA)) = true := by
    decide
  simpa [or_assoc] using List.all_eq_true.1 hall c h

theorem not_isAlphabetic_of_punctuation {c : Char} (h : c ∈ punctuation) :
    isAlphabetic c = false := by
  rw [← Bool.not_eq_true, isAlphabetic, covered_iff]
  rintro ⟨range, hrange, hfirst, hlast⟩
  have hcode := toNat_of_punctuation h
  rcases mem_or_le_of_mem_alphabeticRanges hrange with rfl | rfl | hlarge
  · simp only at hfirst hlast
    omega
  · simp only at hfirst hlast
    omega
  · omega

section
variable {rest : List Char} (hends : ∀ c ∈ rest.head?, isWordChar c = false)
include hends

theorem dropRepeated_keyword :
    dropRepeated "operator".toList ("operator".toList ++ rest) = rest := by
  apply dropRepeated_append (by decide)
  rintro more rfl
  exact absurd (hends 'o' rfl) (by decide)

theorem isBlank_of_lettered {c : Char} (hc : c ∈ rest.head?)
    (hletter : (compact rest).head?.any isAlphabetic = true) : isBlank c = true := by
  obtain ⟨more, rfl⟩ := List.head?_eq_some_iff.1 hc
  -- A mark of punctuation would be what is first left of the text, and is no letter.
  by_contra hplain
  rw [Bool.not_eq_true] at hplain
  have hmark : c ∈ punctuation := by simpa [isWordChar, hplain] using hends c rfl
  have hfirst : (compact (c :: more)).head? = some c := by simp [compact, hplain]
  rw [hfirst, Option.any_some, not_isAlphabetic_of_punctuation hmark] at hletter
  contradiction

theorem words_keyword (hletter : (compact rest).head?.any isAlphabetic = true) :
    words ("operator".toList ++ rest) = "operator".toList :: words rest := by
  have hkeyword : words "operator".toList = ["operator".toList] := by decide
  cases rest with
  | nil => simp [compact] at hletter
  | cons c more =>
    have hblank : isBlank c = true := isBlank_of_lettered hends rfl hletter
    rw [words_append _ hblank, hkeyword, words_cons_of_blank hblank]
    rfl

theorem spaced_keyword (hletter : (compact rest).head?.any isAlphabetic = true) :
    spaced ("operator".toList ++ rest) = "operator".toList ++ ' ' :: spaced rest := by
  rw [spaced, spaced, words_keyword hends hletter]
  cases hwords : words rest with
  | nil =>
    rw [← flatten_words, hwords] at hletter
    contradiction
  | cons word others => simp [List.intercalate]

end

/-- The name of an operator is read off its text as a whole: the words with one space between them
if a letter follows the keyword, and else the tokens with nothing between them. -/
theorem operatorName_eq {tokens : List (List Char)} {text : List Char}
    (h : WritesOperator tokens text) :
    operatorName text =
      if isLettered tokens then spaced text else "operator".toList ++ tokens.flatten := by
  obtain ⟨rest, rfl, hends, rfl⟩ := h
  have hhead : (trim rest).head? = (compact rest).head? := head?_trim rest
  have hletter : isLettered (Text.tokens rest) = (compact rest).head?.any isAlphabetic := by
    rw [isLettered, flatten_tokens]
  rw [operatorName, hletter]
  simp only [dropRepeated_keyword hends, hhead]
  split
  · rename_i hfirst
    rw [spaced_keyword hends hfirst, spaced, spaced, words_trim]
  · rw [compact_trim, flatten_tokens]

theorem words_of_writesOperator {tokens : List (List Char)} {text : List Char}
    (h : WritesOperator tokens text) (hletter : isLettered tokens = true)
    (hwords : ∀ token ∈ tokens, isWord token = true) :
    words text = "operator".toList :: tokens := by
  obtain ⟨rest, rfl, hends, rfl⟩ := h
  rw [isLettered, flatten_tokens] at hletter
  rw [words_keyword hends hletter, words_eq_tokens hwords]

end Text

namespace SourceUnit

theorem spellName_of_writesOperator {u : SourceUnit} {n : Node} {tokens : List (List Char)}
    (hkind : n.kind = "operator_name") (htext : Text.WritesOperator tokens (u.textOf n)) :
    u.spellName n =
      if Text.isLettered tokens then Text.spaced (u.textOf n)
      else "operator".toList ++ tokens.flatten := by
  rw [← Text.operatorName_eq htext]
  simp only [spellName, hkind]

/-- Two names of operators that write the same tokens are spelled the same if the first of these
begins with no letter, and also if all of them are words.  Where a letter follows the keyword, a
name is spelled with its words, and so two of them are spelled the same exactly if they have blanks
between the same tokens. -/
theorem operator_spelled_by_tokens {u v : SourceUnit} {m n : Node} {tokens : List (List Char)}
    (hm : m.kind = "operator_name") (hn : n.kind = "operator_name")
    (hmtext : Text.WritesOperator tokens (u.textOf m))
    (hntext : Text.WritesOperator tokens (v.textOf n)) :
    (Text.isLettered tokens = false →
      u.spellName m = "operator".toList ++ tokens.flatten ∧ u.spellName m = v.spellName n) ∧
    (Text.isLettered tokens = true →
      u.spellName m = Text.spaced (u.textOf m) ∧
        (u.spellName m = v.spellName n ↔ Text.words (u.textOf m) = Text.words (v.textOf n))) ∧
    ((∀ token ∈ tokens, Text.isWord token = true) → u.spellName m = v.spellName n) := by
  rw [spellName_of_writesOperator hm hmtext, spellName_of_writesOperator hn hntext]
  cases hletter : Text.isLettered tokens with
  | false => simp
  | true =>
    refine ⟨fun h => absurd h (by decide), fun _ => ⟨rfl, Text.spaced_eq_spaced_iff⟩, ?_⟩
    intro hwords
    apply Text.spaced_eq_spaced_iff.2
    rw [Text.words_of_writesOperator hmtext hletter hwords,
      Text.words_of_writesOperator hntext hletter hwords]

/-- One operator that is declared twice, the second time with a blank before its brackets. -/
def arrayOperators : SourceUnit where
  path := "unit.cpp"
  dialect := .cpp
  source := .ofString "void operator delete[](void *);\nvoid operator delete [](void *);"
  tree :=
    .node ⟨"translation_unit", none, true, false, false, false, 0, 64⟩
      [.node ⟨"declaration", none, true, false, false, false, 0, 31⟩
        [.node ⟨"primitive_type", some "type", true, false, false, false, 0, 4⟩ [],
         .node ⟨"function_declarator", some "declarator", true, false, false, false, 5, 30⟩
          [.node ⟨"operator_name", some "declarator", true, false, false, false, 5, 22⟩
            [.node ⟨"operator", none, false, false, false, false, 5, 13⟩ [],
             .node ⟨"delete", none, false, false, false, false, 14, 20⟩ [],
             .node ⟨"[]", none, false, false, false, false, 20, 22⟩ []],
           .node ⟨"parameter_list", some "parameters", true, false, false, false, 22, 30⟩
            [.node ⟨"(", none, false, false, false, false, 22, 23⟩ [],
             .node ⟨"parameter_declaration", none, true, false, false, false, 23, 29⟩
              [.node ⟨"primitive_type", some "type", true, false, false, false, 23, 27⟩ [],
               .node ⟨"abstract_pointer_declarator", some "declarator", true, false, false, false,
                  28, 29⟩
                [.node ⟨"*", none, false, false, false, false, 28, 29⟩ []]],
             .node ⟨")", none, false, false, false, false, 29, 30⟩ []]],
         .node ⟨";", none, false, false, false, false, 30, 31⟩ []],
       .node ⟨"declaration", none, true, false, false, false, 32, 64⟩
        [.node ⟨"primitive_type", some "type", true, false, false, false, 32, 36⟩ [],
         .node ⟨"function_declarator", some "declarator", true, false, false, false, 37, 63⟩
          [.node ⟨"operator_name", some "declarator", true, false, false, false, 37, 55⟩
            [.node ⟨"operator", none, false, false, false, false, 37, 45⟩ [],
             .node ⟨"delete", none, false, false, false, false, 46, 52⟩ [],
             .node ⟨"[]", none, false, false, false, false, 53, 55⟩ []],
           .node ⟨"parameter_list", some "parameters", true, false, false, false, 55, 63⟩
            [.node ⟨"(", none, false, false, false, false, 55, 56⟩ [],
             .node ⟨"parameter_declaration", none, true, false, false, false, 56, 62⟩
              [.node ⟨"primitive_type", some "type", true, false, false, false, 56, 60⟩ [],
               .node ⟨"abstract_pointer_declarator", some "declarator", true, false, false, false,
                  61, 62⟩
                [.node ⟨"*", none, false, false, false, false, 61, 62⟩ []]],
             .node ⟨")", none, false, false, false, false, 62, 63⟩ []]],
         .node ⟨";", none, false, false, false, false, 63, 64⟩ []]]
  options := .standard

/-- The tokens of the operator that `arrayOperators` declares. -/
def deleteTokens : List (List Char) :=
  ["delete".toList, ['['], [']']]

theorem writesOperator_closed :
    Text.WritesOperator deleteTokens "operator delete[]".toList :=
  ⟨" delete[]".toList, rfl, by rintro _ ⟨⟩; rfl, by decide⟩

theorem writesOperator_apart :
    Text.WritesOperator deleteTokens "operator delete []".toList :=
  ⟨" delete []".toList, rfl, by rintro _ ⟨⟩; rfl, by decide⟩

theorem operator_spelled_by_tokens_arrays :
    ∃ m n : Node, arrayOperators.tree.at? [0, 1, 0] = some m ∧
      arrayOperators.tree.at? [1, 1, 0] = some n ∧
      m.kind = "operator_name" ∧ n.kind = "operator_name" ∧
      Text.WritesOperator deleteTokens (arrayOperators.textOf m) ∧
      Text.WritesOperator deleteTokens (arrayOperators.textOf n) ∧
      Text.isLettered deleteTokens = true ∧
      (arrayOperators.spellName m = Text.spaced (arrayOperators.textOf m) ∧
        (arrayOperators.spellName m = arrayOperators.spellName n ↔
          Text.words (arrayOperators.textOf m) = Text.words (arrayOperators.textOf n))) ∧
      Text.words (arrayOperators.textOf m) ≠ Text.words (arrayOperators.textOf n) := by
  have hletter : Text.isLettered deleteTokens = true := by decide +kernel
  have hwords : Text.words "operator delete[]".toList ≠ Text.words "operator delete []".toList := by
    decide
  exact ⟨_, _, rfl, rfl, rfl, rfl, writesOperator_closed, writesOperator_apart, hletter,
    (operator_spelled_by_tokens rfl rfl writesOperator_closed writesOperator_apart).2.1 hletter,
    hwords⟩

/-- The two declarations of the operator write the same tokens and give it two spellings. -/
theorem operator_respelled_arrays :
    ∃ m n : Node, arrayOperators.tree.at? [0, 1, 0] = some m ∧
      arrayOperators.tree.at? [1, 1, 0] = some n ∧
      ¬(m.kind = "operator_name" → n.kind = "operator_name" →
        Text.WritesOperator deleteTokens (arrayOperators.textOf m) →
        Text.WritesOperator deleteTokens (arrayOperators.textOf n) →
        arrayOperators.spellName m = arrayOperators.spellName n) ∧
      arrayOperators.spellName m = "operator delete[]".toList ∧
      arrayOperators.spellName n = "operator delete []".toList := by
  refine ⟨_, _, rfl, rfl, fun h => ?_, ?_, ?_⟩
  · have hsame := h rfl rfl writesOperator_closed writesOperator_apart
    exact absurd hsame (by decide +kernel)
  · decide +kernel
  · decide +kernel

end SourceUnit

end CodeCursor
