import CodeCursor.Cursor.Spelling
import CodeCursor.Proofs.NameFolding
import CodeCursor.Proofs.SpacedTexts

/-!
# One selector in three places

A method is declared with the parts of its selector before its parameters, a message is sent with
them before its arguments, and a quoted selector writes them one after the other.  The three
are read by rules of their own.  What they read is the same selector.
-/

namespace CodeCursor

/-- A selector: the name of a method without parameters, or the keywords of its parameters, each
of them possibly empty. -/
inductive Selector where
  | name (word : List Char)
  | keywords (words : List (List Char))
deriving DecidableEq, Repr

namespace Selector

def tokens : Selector → List (List Char)
  | name word => [word]
  | keywords words => words.flatMap fun word => [word, [':']]

/-- The selector as it is spelled, with a colon after each keyword. -/
def text (s : Selector) : List Char :=
  s.tokens.flatten

/-- Whether the words of the selector hold neither blanks nor parentheses. -/
def IsPlain (s : Selector) : Prop :=
  ∀ token ∈ s.tokens, ∀ c ∈ token, Text.isBlank c = false ∧ c ≠ '(' ∧ c ≠ ')'

theorem text_keywords (words : List (List Char)) :
    (keywords words).text = words.flatMap (· ++ [':']) := by
  rw [text, tokens]
  induction words with
  | nil => rfl
  | cons word rest ih =>
    rw [List.flatMap_cons, List.flatMap_cons, List.flatten_append, ih]
    simp

end Selector

namespace Node

/-- Nodes that a method declaration reads its selector from: its words and its parameters. -/
def selectorPartKinds : List String :=
  ["identifier", "method_parameter", "keyword_declarator"]

def parameterKinds : List String :=
  ["method_parameter", "keyword_declarator"]

def methodKinds : List String :=
  ["method_declaration", "method_definition"]

/-- Whether a child of a message belongs to the selector that is sent. -/
def isSent (n : Node) : Bool :=
  n.inField "method" || n.kind == ":"

end Node

namespace SourceUnit

variable {u : SourceUnit}

/-- Words and parameters of a method that declare the keywords.  The word of a parameter stands
before it, or begins it. -/
inductive DeclaresKeywords (u : SourceUnit) : List Node → List (List Char) → Prop
  | done : DeclaresKeywords u [] []
  /-- A word, and a parameter that begins with its colon. -/
  | before {word parameter : Node} {nodes : List Node} {words : List (List Char)}
      (isWord : word.kind = "identifier") (isParameter : parameter.kind = "method_parameter")
      (colon : parameter.firstKind? = some ":") (rest : DeclaresKeywords u nodes words) :
      DeclaresKeywords u (word :: parameter :: nodes) (u.textOf word :: words)
  /-- A parameter without a word. -/
  | empty {parameter : Node} {nodes : List Node} {words : List (List Char)}
      (isParameter : parameter.kind = "method_parameter")
      (colon : parameter.firstKind? = some ":") (rest : DeclaresKeywords u nodes words) :
      DeclaresKeywords u (parameter :: nodes) ([] :: words)
  /-- A parameter that begins with its word and its colon. -/
  | within {parameter word colon : Node} {more nodes : List Node} {words : List (List Char)}
      (isParameter : parameter.isOneOf Node.parameterKinds = true)
      (begins : parameter.children = word :: colon :: more) (isWord : word.kind = "identifier")
      (isColon : colon.kind = ":") (rest : DeclaresKeywords u nodes words) :
      DeclaresKeywords u (parameter :: nodes) (u.textOf word :: words)

/-- Whether the named children of a method declare the selector, all others than words and
parameters left aside. -/
def Declares (u : SourceUnit) (method : Node) : Selector → Prop
  | .name word => ∃ n : Node,
      method.namedChildren.filter (·.isOneOf Node.selectorPartKinds) = [n] ∧
        n.kind = "identifier" ∧ u.textOf n = word
  | .keywords words =>
      u.DeclaresKeywords (method.namedChildren.filter (·.isOneOf Node.selectorPartKinds)) words

theorem ownKeyword?_of_colon {parameter : Node} (h : parameter.firstKind? = some ":") :
    u.ownKeyword? parameter = none := by
  obtain ⟨label, children⟩ := parameter
  cases children with
  | nil => rfl
  | cons word rest =>
    have hword : word.kind = ":" := Option.some.inj h
    cases rest with
    | nil => rfl
    | cons colon more => simp [ownKeyword?, hword]

theorem addSelectorPart_word {parts : SelectorParts} {word : Node}
    (h : word.kind = "identifier") :
    u.addSelectorPart parts word = { parts with pending := some (u.textOf word) } := by
  simp only [addSelectorPart, h]

theorem addSelectorPart_parameter {parts : SelectorParts} {parameter : Node}
    (h : parameter.isOneOf Node.parameterKinds = true) :
    u.addSelectorPart parts parameter =
      match u.ownKeyword? parameter with
      | some keyword => { parts with keywords := parts.keywords ++ [keyword] }
      | none => ⟨none, parts.keywords ++ [parts.pending.getD []]⟩ := by
  simp only [Node.isOneOf, Node.parameterKinds, List.contains_iff_mem, List.mem_cons,
    List.not_mem_nil, or_false] at h
  unfold addSelectorPart
  rcases h with h | h
  · rw [h]
    rfl
  · rw [h]
    rfl

theorem addSelectorPart_other {parts : SelectorParts} {n : Node}
    (h : n.isOneOf Node.selectorPartKinds = false) : u.addSelectorPart parts n = parts := by
  simp only [Node.isOneOf, Node.selectorPartKinds, ← Bool.not_eq_true, List.contains_iff_mem,
    List.mem_cons, List.not_mem_nil, or_false, not_or] at h
  unfold addSelectorPart
  split
  · exact absurd ‹_› h.1
  · exact absurd ‹_› h.2.1
  · exact absurd ‹_› h.2.2
  · rfl

/-- No word waits before or after the keywords that are read. -/
theorem foldl_addSelectorPart {nodes : List Node} {words : List (List Char)}
    (h : u.DeclaresKeywords nodes words) (earlier : List (List Char)) :
    nodes.foldl u.addSelectorPart ⟨none, earlier⟩ = ⟨none, earlier ++ words⟩ := by
  have hkind : ∀ parameter : Node, parameter.kind = "method_parameter" →
      parameter.isOneOf Node.parameterKinds = true := by
    intro parameter h
    rw [Node.isOneOf, h]
    rfl
  induction h generalizing earlier with
  | done => rw [List.foldl_nil, List.append_nil]
  | before isWord isParameter colon _ ih =>
    rw [List.foldl_cons, List.foldl_cons, addSelectorPart_word isWord,
      addSelectorPart_parameter (hkind _ isParameter), ownKeyword?_of_colon colon]
    simp [ih]
  | empty isParameter colon _ ih =>
    rw [List.foldl_cons, addSelectorPart_parameter (hkind _ isParameter),
      ownKeyword?_of_colon colon]
    simp [ih]
  | within isParameter begins isWord isColon _ ih =>
    rw [List.foldl_cons, addSelectorPart_parameter isParameter, ownKeyword?, begins]
    simp [isWord, isColon, ih]

theorem declaredSelector_eq_foldl (u : SourceUnit) (method : Node) :
    u.declaredSelector method =
      ((method.namedChildren.filter (·.isOneOf Node.selectorPartKinds)).foldl u.addSelectorPart
        ⟨none, []⟩).selector := by
  have hother : (fun (parts : SelectorParts) (n : Node) =>
      if n.isOneOf Node.selectorPartKinds = true then u.addSelectorPart parts n else parts) =
      u.addSelectorPart := by
    funext parts n
    split
    · rfl
    · rename_i h
      exact (addSelectorPart_other (eq_false_of_ne_true h)).symm
  rw [declaredSelector, List.foldl_filter, hother]

theorem declaredSelector_eq {method : Node} {s : Selector} (h : u.Declares method s) :
    u.declaredSelector method = s.text := by
  rw [declaredSelector_eq_foldl]
  cases s with
  | name word =>
    obtain ⟨n, hnodes, hkind, rfl⟩ := h
    rw [hnodes, List.foldl_cons, addSelectorPart_word hkind]
    simp [SelectorParts.selector, Selector.text, Selector.tokens]
  | keywords words =>
    rw [foldl_addSelectorPart h, Selector.text_keywords, SelectorParts.selector]
    cases words <;> rfl

/-- Whether a child of a message is a colon of its selector. -/
structure IsColon (u : SourceUnit) (n : Node) : Prop where
  kind : n.kind = ":"
  text : n.inField "method" = true → u.textOf n = [':']

/-- Words and colons of a message that send the keywords. -/
inductive SendsKeywords (u : SourceUnit) : List Node → List (List Char) → Prop
  | done : SendsKeywords u [] []
  | word {word colon : Node} {nodes : List Node} {words : List (List Char)}
      (isWord : word.inField "method" = true) (isColon : u.IsColon colon)
      (rest : SendsKeywords u nodes words) :
      SendsKeywords u (word :: colon :: nodes) (u.textOf word :: words)
  | empty {colon : Node} {nodes : List Node} {words : List (List Char)}
      (isColon : u.IsColon colon) (rest : SendsKeywords u nodes words) :
      SendsKeywords u (colon :: nodes) ([] :: words)

/-- Whether the children of a message send the selector, all others than words and colons left
aside. -/
def Sends (u : SourceUnit) (message : Node) : Selector → Prop
  | .name word => ∃ n : Node, message.children.filter Node.isSent = [n] ∧
      n.inField "method" = true ∧ u.textOf n = word
  | .keywords words => u.SendsKeywords (message.children.filter Node.isSent) words

/-- What a child of a message adds to the selector. -/
def sentText (u : SourceUnit) (n : Node) : List Char :=
  if n.inField "method" then u.textOf n else if n.kind == ":" then [':'] else []

theorem sentText_of_isColon {n : Node} (h : u.IsColon n) : u.sentText n = [':'] := by
  rw [sentText, h.kind]
  split
  · exact h.text ‹_›
  · rfl

theorem sentSelector_eq_flatMap (u : SourceUnit) (message : Node) :
    u.sentSelector message = (message.children.filter Node.isSent).flatMap u.sentText := by
  have hskip : ∀ nodes : List Node,
      nodes.flatMap u.sentText = (nodes.filter Node.isSent).flatMap u.sentText := by
    intro nodes
    induction nodes with
    | nil => rfl
    | cons n rest ih =>
      rw [List.flatMap_cons, List.filter_cons, ih]
      split
      · rw [List.flatMap_cons]
      · rename_i hnot
        rw [Node.isSent, Bool.or_eq_true, not_or] at hnot
        rw [sentText, if_neg hnot.1, if_neg hnot.2, List.nil_append]
  exact hskip message.children

theorem flatMap_sentText {nodes : List Node} {words : List (List Char)}
    (h : u.SendsKeywords nodes words) :
    nodes.flatMap u.sentText = words.flatMap (· ++ [':']) := by
  induction h with
  | done => rfl
  | word isWord isColon _ ih =>
    rw [List.flatMap_cons, List.flatMap_cons, List.flatMap_cons, ih, sentText_of_isColon isColon,
      sentText, if_pos isWord, List.append_assoc]
  | empty isColon _ ih =>
    rw [List.flatMap_cons, List.flatMap_cons, ih, sentText_of_isColon isColon, List.nil_append]

theorem sentSelector_eq {message : Node} {s : Selector} (h : u.Sends message s) :
    u.sentSelector message = s.text := by
  rw [sentSelector_eq_flatMap]
  cases s with
  | name word =>
    obtain ⟨n, hnodes, hfield, rfl⟩ := h
    rw [hnodes, List.flatMap_singleton, sentText, if_pos hfield]
    simp [Selector.text, Selector.tokens]
  | keywords words => rw [flatMap_sentText h, Selector.text_keywords]

/-- Whether the text of a node quotes the selector, with any blanks between the tokens. -/
def Quotes (u : SourceUnit) (n : Node) (s : Selector) : Prop :=
  Text.Spaced ("@selector".toList :: ['('] :: (s.tokens ++ [[')']])) (u.textOf n)

end SourceUnit

/-- Of a quoted selector only what its parentheses enclose is read, closed up. -/
theorem quotedSelector_enclosed {gap inside finish : List Char}
    (hgap : ∀ c ∈ gap, Text.isBlank c = true) (hfinish : ∀ c ∈ finish, Text.isBlank c = true)
    (hinside : ∀ c ∈ inside, (c == '(' || c == ')') = false) :
    quotedSelector ("@selector".toList ++ (gap ++ ('(' :: (inside ++ [')'])) ++ finish)) =
      Text.compact inside := by
  have honce : ∀ rest,
      "@selector".toList ++ rest ≠ gap ++ ('(' :: (inside ++ [')'])) ++ finish := by
    intro rest heq
    cases gap with
    | nil => exact absurd (List.cons.inj heq).1 (by decide)
    | cons c gap =>
      have hc := hgap c List.mem_cons_self
      rw [← (List.cons.inj heq).1] at hc
      exact absurd hc (by decide)
  have hfirst : ∀ c ∈ ('(' :: (inside ++ [')'])).head?, Text.isBlank c = false := by
    rintro _ ⟨⟩
    decide
  have hlast : ∀ c ∈ ('(' :: (inside ++ [')'])).getLast?, Text.isBlank c = false := by
    rw [← List.cons_append, List.getLast?_concat]
    rintro _ ⟨⟩
    decide
  rw [quotedSelector, Text.dropRepeated_append (by decide) honce, Text.trim,
    Text.trimOf_append hgap hfinish hfirst hlast, ← List.singleton_append, ← List.append_assoc,
    Text.trimOf_append (by simp) (by simp)
      (fun c hc => hinside c (List.mem_of_mem_head? hc))
      (fun c hc => hinside c (List.mem_of_mem_getLast? hc))]

theorem quotedSelector_eq {s : Selector} {text : List Char} (hplain : s.IsPlain)
    (h : Text.Spaced ("@selector".toList :: ['('] :: (s.tokens ++ [[')']])) text) :
    quotedSelector text = s.text := by
  cases h with
  | @token _ _ gap _ hgap hopening =>
  cases hopening with
  | @token _ _ start _ hstart hrest =>
  obtain ⟨words, closing, rfl, hwords, hclosing⟩ := hrest.exists_append
  cases hclosing with
  | @token _ _ finish _ hfinish hdone =>
  cases hdone with
  | done =>
  have hblank : ∀ c, Text.isBlank c = true → (c == '(' || c == ')') = false := by
    intro c hc
    rw [Bool.or_eq_false_iff, beq_eq_false_iff_ne, beq_eq_false_iff_ne]
    constructor
    · rintro rfl
      exact absurd hc (by decide)
    · rintro rfl
      exact absurd hc (by decide)
  have hinside : ∀ c ∈ start ++ words, (c == '(' || c == ')') = false := by
    intro c hc
    rcases List.mem_append.1 hc with hc | hc
    · exact hblank c (hstart c hc)
    · rcases hwords.mem_text hc with hc | ⟨token, htoken, hc⟩
      · exact hblank c hc
      · simpa using (hplain token htoken c hc).2
  have htext : "@selector".toList ++ gap ++ (['('] ++ start ++ (words ++ ([')'] ++ finish ++ []))) =
      "@selector".toList ++ (gap ++ ('(' :: ((start ++ words) ++ [')'])) ++ finish) := by
    simp only [List.append_assoc, List.append_nil, List.cons_append, List.nil_append]
  rw [htext, quotedSelector_enclosed hgap hfinish hinside, Text.compact_append,
    Text.compact_of_blank hstart,
    hwords.compact_eq fun token htoken c hc => (hplain token htoken c hc).1]
  rfl

namespace Cursor

variable {c : Cursor} {s : Selector}

/-- Whether the cursor is of the kind that its node asks for.  All are but the root and a cursor
for one of several declarators. -/
def HasOwnKind (c : Cursor) : Prop :=
  c.place.kindExposure c.unit.options c.unit.source = .cursor c.kind

theorem hasOwnKind_of_mem_preorder {u : SourceUnit} (hc : c ∈ u.root.preorder)
    (hroot : c.place.isRoot = false)
    (hone : ∀ p : Place, c.place ∈ p.children → c.place.node.inField "declarator" = true →
      p.node.declaratorCount ≤ 1) : c.HasOwnKind := by
  obtain ⟨hunit, -, -⟩ := SourceUnit.mem_preorder_root.1 hc
  obtain ⟨p, hp, ⟨hfield, hcount, -⟩ | ⟨-, hown⟩⟩ := SourceUnit.exposure_of_cursor hc hroot
  · exact absurd (hone p hp hfield) (Nat.not_le.2 hcount)
  · rwa [HasOwnKind, hunit]

/-- The three ways in which a cursor writes a selector. -/
inductive Writes (c : Cursor) (s : Selector) : Prop
  | declaration (isMethod : c.place.node.isOneOf Node.methodKinds = true)
      (parts : c.unit.Declares c.place.node s)
  | message (isMessage : c.place.node.kind = "message_expression")
      (parts : c.unit.Sends c.place.node s)
  | quotation (isQuotation : c.place.node.kind = "selector_expression")
      (parts : c.unit.Quotes c.place.node s)

theorem kind_of_declaration (hown : c.HasOwnKind)
    (h : c.place.node.isOneOf Node.methodKinds = true) :
    c.kind = c.place.node.kindByToken "+" .objCClassMethodDecl .objCInstanceMethodDecl := by
  simp only [Node.isOneOf, Node.methodKinds, List.contains_iff_mem, List.mem_cons,
    List.not_mem_nil, or_false] at h
  rcases h with h | h
  all_goals
    simp only [HasOwnKind, Place.kindExposure, Place.plainExposure, Node.directiveKind?, h] at hown
    exact (Exposure.cursor.inj hown).symm

theorem kind_of_message (hown : c.HasOwnKind) (h : c.place.node.kind = "message_expression") :
    c.kind = .objCMessageExpr := by
  simp only [HasOwnKind, Place.kindExposure, Place.plainExposure, Node.directiveKind?,
    Node.fixedExposure, h] at hown
  exact (Exposure.cursor.inj hown).symm

theorem kind_of_quotation (hown : c.HasOwnKind) (h : c.place.node.kind = "selector_expression") :
    c.kind = .objCSelectorExpr := by
  simp only [HasOwnKind, Place.kindExposure, Place.plainExposure, Node.directiveKind?,
    Node.fixedExposure, h] at hown
  exact (Exposure.cursor.inj hown).symm

/-- However a cursor writes a selector, it is spelled with the words of the selector and a colon
after each keyword. -/
theorem spelling_of_writes (hplain : s.IsPlain) (hown : c.HasOwnKind) (h : c.Writes s) :
    c.spelling = String.ofList s.text := by
  apply congrArg String.ofList
  cases h with
  | declaration isMethod parts =>
    have hspell : c.unit.spell c.place.node c.kind = c.unit.declaredSelector c.place.node := by
      rw [kind_of_declaration hown isMethod, Node.kindByToken]
      split <;> rfl
    rw [hspell, SourceUnit.declaredSelector_eq parts]
  | message isMessage parts =>
    rw [kind_of_message hown isMessage, SourceUnit.spell, SourceUnit.sentSelector_eq parts]
  | quotation isQuotation parts =>
    rw [kind_of_quotation hown isQuotation, SourceUnit.spell, quotedSelector_eq hplain parts]

/-- A method with two parameters, of which the second has no keyword, declared, sent and
quoted. -/
def boxes : SourceUnit where
  path := "unit.m"
  dialect := .objC
  source := .ofString
    "@interface Box\n- (void)at:(int)x :(int)y;\n@end\n[b at:1 :2];\nSEL s = @selector( at : : );"
  tree :=
    .node ⟨"translation_unit", none, true, false, false, false, 0, 88⟩
      [.node ⟨"class_interface", none, true, false, false, false, 0, 46⟩
        [.node ⟨"@interface", none, false, false, false, false, 0, 10⟩ [],
         .node ⟨"identifier", none, true, false, false, false, 11, 14⟩ [],
         .node ⟨"method_declaration", none, true, false, false, false, 15, 41⟩
          [.node ⟨"-", none, false, false, false, false, 15, 16⟩ [],
           .node ⟨"method_type", none, true, false, false, false, 17, 23⟩
            [.node ⟨"(", none, false, false, false, false, 17, 18⟩ [],
             .node ⟨"type_name", none, true, false, false, false, 18, 22⟩
              [.node ⟨"primitive_type", some "type", true, false, false, false, 18, 22⟩ []],
             .node ⟨")", none, false, false, false, false, 22, 23⟩ []],
           .node ⟨"identifier", none, true, false, false, false, 23, 25⟩ [],
           .node ⟨"method_parameter", none, true, false, false, false, 25, 32⟩
            [.node ⟨":", none, false, false, false, false, 25, 26⟩ [],
             .node ⟨"method_type", none, true, false, false, false, 26, 31⟩ [],
             .node ⟨"identifier", none, true, false, false, false, 31, 32⟩ []],
           .node ⟨"method_parameter", none, true, false, false, false, 33, 40⟩
            [.node ⟨":", none, false, false, false, false, 33, 34⟩ [],
             .node ⟨"method_type", none, true, false, false, false, 34, 39⟩ [],
             .node ⟨"identifier", none, true, false, false, false, 39, 40⟩ []],
           .node ⟨";", none, false, false, false, false, 40, 41⟩ []],
         .node ⟨"@end", none, false, false, false, false, 42, 46⟩ []],
       .node ⟨"expression_statement", none, true, false, false, false, 47, 59⟩
        [.node ⟨"message_expression", none, true, false, false, false, 47, 58⟩
          [.node ⟨"[", none, false, false, false, false, 47, 48⟩ [],
           .node ⟨"identifier", some "receiver", true, false, false, false, 48, 49⟩ [],
           .node ⟨"identifier", some "method", true, false, false, false, 50, 52⟩ [],
           .node ⟨":", none, false, false, false, false, 52, 53⟩ [],
           .node ⟨"number_literal", none, true, false, false, false, 53, 54⟩ [],
           .node ⟨":", none, false, false, false, false, 55, 56⟩ [],
           .node ⟨"number_literal", none, true, false, false, false, 56, 57⟩ [],
           .node ⟨"]", none, false, false, false, false, 57, 58⟩ []],
         .node ⟨";", none, false, false, false, false, 58, 59⟩ []],
       .node ⟨"declaration", none, true, false, false, false, 60, 88⟩
        [.node ⟨"typedefed_specifier", some "type", true, false, false, false, 60, 63⟩ [],
         .node ⟨"init_declarator", some "declarator", true, false, false, false, 64, 87⟩
          [.node ⟨"identifier", some "declarator", true, false, false, false, 64, 65⟩ [],
           .node ⟨"=", none, false, false, false, false, 66, 67⟩ [],
           .node ⟨"selector_expression", some "value", true, false, false, false, 68, 87⟩
            [.node ⟨"@selector", none, false, false, false, false, 68, 77⟩ [],
             .node ⟨"(", none, false, false, false, false, 77, 78⟩ [],
             .node ⟨")", none, false, false, false, false, 86, 87⟩ []]],
         .node ⟨";", none, false, false, false, false, 87, 88⟩ []]]
  options := .standard

theorem spelling_of_writes_boxes :
    ∃ (s : Selector) (declared sent quoted : Cursor), s.text = "at::".toList ∧ s.IsPlain ∧
      (boxes.root.at? [0, 0] = some declared ∧ declared.HasOwnKind ∧ declared.Writes s ∧
        declared.spelling = String.ofList s.text) ∧
      (boxes.root.at? [1] = some sent ∧ sent.HasOwnKind ∧ sent.Writes s ∧
        sent.spelling = String.ofList s.text) ∧
      (boxes.root.at? [2, 0] = some quoted ∧ quoted.HasOwnKind ∧ quoted.Writes s ∧
        quoted.spelling = String.ofList s.text) := by
  have hplain : (Selector.keywords ["at".toList, []]).IsPlain := by
    have hall : (Selector.keywords ["at".toList, []]).text.all
        (fun c => !Text.isBlank c && c != '(' && c != ')') = true := rfl
    intro token htoken c hc
    simpa [and_assoc] using List.all_eq_true.1 hall c (List.mem_flatten.2 ⟨token, htoken, hc⟩)
  have hown : ∀ (path : List Nat) (c : Cursor), boxes.root.at? path = some c →
      c.place.isRoot = false → c.place.node.inField "declarator" = false → c.HasOwnKind := by
    intro path c hc hroot hfield
    apply hasOwnKind_of_mem_preorder (mem_preorder_iff_at?.2 ⟨path, hc⟩) hroot
    intro p _ h
    exact absurd (hfield.symm.trans h) Bool.false_ne_true
  have hdeclared := hown [0, 0] _ rfl rfl (by decide)
  have hsent := hown [1] _ rfl rfl (by decide)
  have hquoted := hown [2, 0] _ rfl rfl (by decide)
  refine ⟨.keywords ["at".toList, []], _, _, _, rfl, hplain,
    ⟨rfl, hdeclared, ?declared, spelling_of_writes hplain hdeclared ?declared⟩,
    ⟨rfl, hsent, ?sent, spelling_of_writes hplain hsent ?sent⟩,
    ⟨rfl, hquoted, ?quoted, spelling_of_writes hplain hquoted ?quoted⟩⟩
  case declared => exact .declaration rfl (.before rfl rfl rfl (.empty rfl rfl .done))
  case sent =>
    have hcolon : ∀ n : Node, n.kind = ":" → n.inField "method" = false → boxes.IsColon n :=
      fun n hkind hfield => ⟨hkind, fun h => absurd (hfield.symm.trans h) (by decide)⟩
    exact .message rfl (.word rfl (hcolon _ rfl rfl) (.empty (hcolon _ rfl rfl) .done))
  case quoted =>
    have hnone : ∀ c ∈ [], Text.isBlank c = true := by simp
    have hspace : ∀ c ∈ [' '], Text.isBlank c = true := by
      intro c hc
      obtain rfl := List.mem_singleton.1 hc
      rfl
    exact .quotation rfl (.token "@selector".toList hnone (.token ['('] hspace
      (.token "at".toList hspace (.token [':'] hspace (.token [] hnone (.token [':'] hspace
        (.token [')'] hnone .done)))))))

end Cursor

end CodeCursor
