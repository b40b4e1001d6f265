import CodeCursor.Proofs.SpacedTexts

/-!
# Tokens of a text

A text is read as words and marks of punctuation, with blanks between them that belong to neither.
Closing the text up keeps the marks and runs together the words that only blanks keep apart.
-/

namespace CodeCursor.Text

/-- The marks of ASCII that stand in no word. -/
def punctuation : List Char :=
  "!\"#%&'()*+,-./:;<=>?@[\\]^`\x7b|\x7d~".toList

/-- The characters of words are all but blanks and marks of punctuation. -/
def isWordChar (c : Char) : Bool :=
  !isBlank c && !punctuation.contains c

/-- A character put before the first of some tokens, or taken for one if there are none. -/
def consFirst (c : Char) : List (List Char) → List (List Char)
  | [] => [[c]]
  | token :: others => (c :: token) :: others

/-- The tokens of a text in order: its words, the maximal runs of word characters, and each mark of
punctuation by itself. -/
def tokens : List Char → List (List Char)
  | [] => []
  | c :: rest =>
    if isBlank c then tokens rest
    else if isWordChar c && rest.head?.any isWordChar then consFirst c (tokens rest)
    else [c] :: tokens rest

/-- Whether a token is a word. -/
def isWord (token : List Char) : Bool :=
  token.head?.any isWordChar

/-- Whether no word follows another. -/
def WordsApart (tokens : List (List Char)) : Prop :=
  tokens.IsChain fun token next => ¬(isWord token = true ∧ isWord next = true)

/-- The tokens with each run of words put together as one. -/
def joinWords : List (List Char) → List (List Char)
  | [] => []
  | token :: rest =>
    match joinWords rest with
    | [] => [token]
    | next :: others =>
      if isWord token && isWord next then (token ++ next) :: others else token :: next :: others

theorem isBlank_of_isWordChar {c : Char} (h : isWordChar c = true) : isBlank c = false := by
  rw [isWordChar, Bool.and_eq_true, Bool.not_eq_true'] at h
  exact h.1

theorem tokens_cons_of_blank {c : Char} (hc : isBlank c = true) (rest : List Char) :
    tokens (c :: rest) = tokens rest := by
  rw [tokens, if_pos hc]

theorem tokens_cons_of_words {c d : Char} (hc : isWordChar c = true) (hd : isWordChar d = true)
    (rest : List Char) : tokens (c :: d :: rest) = consFirst c (tokens (d :: rest)) := by
  rw [tokens, if_neg (by simp [isBlank_of_isWordChar hc]), if_pos (by simp [hc, hd])]

theorem tokens_cons_of_end {c : Char} {rest : List Char} (hc : isBlank c = false)
    (hend : (isWordChar c && rest.head?.any isWordChar) = false) :
    tokens (c :: rest) = [c] :: tokens rest := by
  rw [tokens, if_neg (by simp [hc]), if_neg (by simp [hend])]

/-- A character that is no blank begins a token. -/
theorem exists_tokens_cons {c : Char} (hc : isBlank c = false) (rest : List Char) :
    ∃ token others, tokens (c :: rest) = (c :: token) :: others := by
  rw [tokens, if_neg (by simp [hc])]
  split
  · cases tokens rest with
    | nil => exact ⟨[], [], rfl⟩
    | cons token others => exact ⟨token, others, rfl⟩
  · exact ⟨[], tokens rest, rfl⟩

theorem flatten_consFirst (c : Char) (tokens : List (List Char)) :
    (consFirst c tokens).flatten = c :: tokens.flatten := by
  cases tokens <;> rfl

/-- Nothing but blanks is lost between the tokens. -/
theorem flatten_tokens (text : List Char) : (tokens text).flatten = compact text := by
  fun_induction tokens text with
  | case1 => rfl
  | case2 c rest hc ih => simpa [compact, hc] using ih
  | case3 c rest hc _ ih => simpa [compact, hc, flatten_consFirst] using ih
  | case4 c rest hc _ ih => simpa [compact, hc] using ih

theorem words_cons_of_plain {c d : Char} (hc : isBlank c = false) (hd : isBlank d = false)
    (rest : List Char) : words (c :: d :: rest) = consFirst c (words (d :: rest)) := by
  obtain ⟨piece, others, hpieces⟩ := List.exists_cons_of_ne_nil (pieces_ne_nil rest)
  have hone : pieces (d :: rest) = (d :: piece) :: others := by
    rw [pieces, hd, hpieces]
    rfl
  have htwo : pieces (c :: d :: rest) = (c :: d :: piece) :: others := by
    rw [pieces, hc, hone]
    rfl
  rw [words, words, hone, htwo]
  rfl

theorem isWordChar_of_words {c : Char} {rest : List Char} (hc : isBlank c = false)
    (h : ∀ token ∈ tokens (c :: rest), isWord token = true) : isWordChar c = true := by
  obtain ⟨token, others, htokens⟩ := exists_tokens_cons hc rest
  rw [htokens] at h
  exact h _ List.mem_cons_self

/-- Where all tokens are words, blanks stand between any two of them. -/
theorem words_eq_tokens {text : List Char} (h : ∀ token ∈ tokens text, isWord token = true) :
    words text = tokens text := by
  induction text with
  | nil => rfl
  | cons c rest ih =>
    cases hc : isBlank c with
    | true =>
      rw [tokens_cons_of_blank hc] at h ⊢
      rw [words_cons_of_blank hc, ih h]
    | false =>
      have hword := isWordChar_of_words hc h
      cases rest with
      | nil => simp [words, pieces, tokens, hc]
      | cons d more =>
        cases hd : isWordChar d with
        | true =>
          have hplain := isBlank_of_isWordChar hd
          obtain ⟨first, last, hfirst⟩ := exists_tokens_cons hplain more
          rw [tokens_cons_of_words hword hd, hfirst] at h
          have hmore : ∀ token ∈ tokens (d :: more), isWord token = true := by
            rw [hfirst]
            exact List.forall_mem_cons.2 ⟨by simp [isWord, hd], (List.forall_mem_cons.1 h).2⟩
          rw [words_cons_of_plain hc hplain, tokens_cons_of_words hword hd, ih hmore]
        | false =>
          rw [tokens_cons_of_end hc (by simp [hd])] at h ⊢
          have hmore := (List.forall_mem_cons.1 h).2
          have hblank : isBlank d = true := by
            -- Otherwise the next token would begin with a mark of punctuation.
            by_contra hplain
            have hnext := isWordChar_of_words (eq_false_of_ne_true hplain) hmore
            rw [hd] at hnext
            contradiction
          have hone : words [c] = [[c]] := words_of_plain (by simp) (by simpa using hc)
          rw [← ih hmore, words_cons_of_blank hblank, ← List.singleton_append,
            words_append [c] hblank, hone]
          rfl

theorem flatten_joinWords (tokens : List (List Char)) :
    (joinWords tokens).flatten = tokens.flatten := by
  fun_induction joinWords tokens with
  | case1 => rfl
  | case2 token rest h ih =>
    rw [h] at ih
    rw [List.flatten_cons, List.flatten_cons, ← ih]
  | case3 token rest next others h _ ih =>
    rw [h] at ih
    rw [List.flatten_cons, List.flatten_cons, ← ih, List.flatten_cons, List.append_assoc]
  | case4 token rest next others h _ ih =>
    rw [h] at ih
    rw [List.flatten_cons, ih, List.flatten_cons]

theorem joinWords_ne_nil (token : List Char) (rest : List (List Char)) :
    joinWords (token :: rest) ≠ [] := by
  rw [joinWords]
  split
  · simp
  · split <;> simp

/-- Nothing is put together exactly if no word follows another. -/
theorem joinWords_eq_self_iff {tokens : List (List Char)} :
    joinWords tokens = tokens ↔ WordsApart tokens := by
  unfold WordsApart
  fun_induction joinWords tokens with
  | case1 => simp
  | case2 token rest h ih =>
    cases rest with
    | nil => simp
    | cons next others => exact absurd h (joinWords_ne_nil next others)
  | case3 token rest next others h hwords ih =>
    rw [Bool.and_eq_true] at hwords
    constructor
    · intro heq
      have hnext : next = [] := List.append_right_eq_self.1 (List.cons.inj heq).1
      rw [hnext] at hwords
      exact absurd hwords.2 (by decide)
    · intro hchain
      have hrest := ih.2 hchain.of_cons
      rw [h] at hrest
      subst hrest
      exact absurd hwords (List.isChain_cons_cons.1 hchain).1
  | case4 token rest next others h hwords ih =>
    rw [Bool.and_eq_true] at hwords
    rw [h] at ih
    constructor
    · intro heq
      have hrest : next :: others = rest := (List.cons.inj heq).2
      have hchain := ih.1 hrest
      subst hrest
      exact List.isChain_cons_cons.2 ⟨hwords, hchain⟩
    · intro hchain
      rw [ih.2 hchain.of_cons]

theorem joinWords_consFirst {c d : Char} (hc : isWordChar c = true) (hd : isWordChar d = true)
    (token : List Char) (others : List (List Char)) :
    joinWords ((c :: d :: token) :: others) = consFirst c (joinWords ((d :: token) :: others)) := by
  have hword : isWord (c :: d :: token) = isWord (d :: token) := by simp [isWord, hc, hd]
  rw [joinWords, joinWords, hword]
  cases joinWords others with
  | nil => rfl
  | cons next others =>
    simp only []
    split <;> rfl

/-- Closing a text up puts each run of words together as one, and leaves all other tokens. -/
theorem tokens_compact (text : List Char) : tokens (compact text) = joinWords (tokens text) := by
  induction text with
  | nil => rfl
  | cons c rest ih =>
    cases hc : isBlank c with
    | true => simpa [compact, hc, tokens_cons_of_blank] using ih
    | false =>
      have hcompact : compact (c :: rest) = c :: compact rest := by simp [compact, hc]
      rw [hcompact]
      cases hwords : isWordChar c && rest.head?.any isWordChar with
      | true =>
        obtain ⟨hword, d, hhead, hnext⟩ :
            isWordChar c = true ∧ ∃ d, rest.head? = some d ∧ isWordChar d = true := by
          simpa [Option.any_eq_true] using hwords
        obtain ⟨more, rfl⟩ := List.head?_eq_some_iff.1 hhead
        have hplain := isBlank_of_isWordChar hnext
        have hrest : compact (d :: more) = d :: compact more := by simp [compact, hplain]
        obtain ⟨token, others, htokens⟩ := exists_tokens_cons hplain more
        rw [tokens_cons_of_words hword hnext, hrest, tokens_cons_of_words hword hnext, ← hrest, ih,
          htokens, ← joinWords_consFirst hword hnext]
        rfl
      | false =>
        rw [tokens_cons_of_end hc hwords, joinWords, ← ih]
        -- What follows may be a word that blanks kept apart from this character.
        cases hrest : compact rest with
        | nil => simp [tokens, hc]
        | cons d more =>
          have hplain : isBlank d = false := by
            have hmem : d ∈ compact rest := hrest ▸ List.mem_cons_self
            simpa using (List.mem_filter.1 hmem).2
          obtain ⟨token, others, htokens⟩ := exists_tokens_cons hplain more
          rw [htokens]
          by_cases hboth : isWordChar c = true ∧ isWordChar d = true
          · rw [tokens_cons_of_words hboth.1 hboth.2, htokens]
            simp [isWord, hboth.1, hboth.2, consFirst]
          · rw [tokens_cons_of_end hc (by simpa using hboth), htokens]
            exact (if_neg (by simpa [isWord] using hboth)).symm

/-- What is left of two texts when they are closed up is the same exactly if their tokens are, with
each run of words taken for one. -/
theorem compact_eq_compact_iff {text other : List Char} :
    compact text = compact other ↔ joinWords (tokens text) = joinWords (tokens other) := by
  constructor
  · intro h
    rw [← tokens_compact, ← tokens_compact, h]
  · intro h
    rw [← flatten_tokens, ← flatten_tokens, ← flatten_joinWords, h, flatten_joinWords]

end CodeCursor.Text
