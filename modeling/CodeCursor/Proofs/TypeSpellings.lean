import CodeCursor.Cursor.Spelling
import CodeCursor.Proofs.CursorTrees
import CodeCursor.Proofs.DeclaredNames
import CodeCursor.Proofs.Tokens

/-!
# Spellings of references to types

A reference to a type by its name is spelled with all that is written for it, template arguments
among it, and without the blanks.  The marks of punctuation are kept, but of blanks that keep two
words apart nothing remains, so that the words are read as one.
-/

namespace CodeCursor

/-- The nodes that refer to a type by its name. -/
def Node.typeNameKinds : List String :=
  ["type_identifier", "template_type", "qualified_identifier"]

namespace SourceUnit

variable {u v : SourceUnit} {c d : Cursor}

theorem spellType_of_typeName {n : Node} (h : n.isOneOf Node.typeNameKinds = true) :
    u.spellType n = Text.compact (u.textOf n) := by
  have hnone : ∀ kind ∈ Node.typeNameKinds, specifierWord? kind = none := by decide
  rw [spellType, hnone n.kind (List.contains_iff_mem.1 h)]

theorem spelling_of_typeName (hc : c ∈ u.root.preorder) (hkind : c.kind = .typeRef)
    (hname : c.place.node.isOneOf Node.typeNameKinds = true) :
    c.spelling.toList = Text.compact (u.textOf c.place.node) := by
  have hunit : c.unit = u := (mem_preorder_root.1 hc).1
  rw [Cursor.spelling, hkind, hunit, String.toList_ofList]
  exact spellType_of_typeName hname

/-- The tokens that the text of a cursor writes. -/
def tokensOf (u : SourceUnit) (c : Cursor) : List (List Char) :=
  Text.tokens (u.textOf c.place.node)

/-- A reference to a type by its name is spelled with the tokens that are written for it, each run
of words put together as one, and so with these tokens themselves exactly if no word follows
another.  Two such references are spelled the same exactly if their tokens are the same when runs
of words are put together.  Where no word follows another in either, these are just the tokens. -/
theorem type_spelled_by_joined_words (hc : c ∈ u.root.preorder) (hd : d ∈ v.root.preorder)
    (hckind : c.kind = .typeRef) (hdkind : d.kind = .typeRef)
    (hcname : c.place.node.isOneOf Node.typeNameKinds = true)
    (hdname : d.place.node.isOneOf Node.typeNameKinds = true) :
    Text.tokens c.spelling.toList = Text.joinWords (u.tokensOf c) ∧
    (Text.tokens c.spelling.toList = u.tokensOf c ↔ Text.WordsApart (u.tokensOf c)) ∧
    (c.spelling = d.spelling ↔ Text.joinWords (u.tokensOf c) = Text.joinWords (v.tokensOf d)) ∧
    (Text.WordsApart (u.tokensOf c) → Text.WordsApart (v.tokensOf d) →
      (c.spelling = d.spelling ↔ u.tokensOf c = v.tokensOf d)) := by
  have hcs := spelling_of_typeName hc hckind hcname
  have hds := spelling_of_typeName hd hdkind hdname
  have hsame : c.spelling = d.spelling ↔
      Text.joinWords (u.tokensOf c) = Text.joinWords (v.tokensOf d) := by
    rw [← String.toList_inj, hcs, hds, Text.compact_eq_compact_iff]
    rfl
  have htokens : Text.tokens c.spelling.toList = Text.joinWords (u.tokensOf c) := by
    rw [hcs, Text.tokens_compact]
    rfl
  refine ⟨htokens, ?_, hsame, ?_⟩
  · rw [htokens, Text.joinWords_eq_self_iff]
  · intro hcapart hdapart
    rw [hsame, Text.joinWords_eq_self_iff.2 hcapart, Text.joinWords_eq_self_iff.2 hdapart]

/-- Two types that differ in the words of their template argument. -/
def boxedIntegers : SourceUnit where
  path := "unit.cpp"
  dialect := .cpp
  source := .ofString "Box<unsigned int> a;\nBox<unsignedint> b;"
  tree :=
    .node ⟨"translation_unit", none, true, false, false, false, 0, 40⟩
      [.node ⟨"declaration", none, true, false, false, false, 0, 20⟩
        [.node ⟨"template_type", some "type", true, false, false, false, 0, 17⟩
          [.node ⟨"type_identifier", some "name", true, false, false, false, 0, 3⟩ [],
           .node ⟨"template_argument_list", some "arguments", true, false, false, false, 3, 17⟩
            [.node ⟨"<", none, false, false, false, false, 3, 4⟩ [],
             .node ⟨"type_descriptor", none, true, false, false, false, 4, 16⟩
              [.node ⟨"sized_type_specifier", some "type", true, false, false, false, 4, 16⟩
                [.node ⟨"unsigned", none, false, false, false, false, 4, 12⟩ [],
                 .node ⟨"primitive_type", some "type", true, false, false, false, 13, 16⟩ []]],
             .node ⟨">", none, false, false, false, false, 16, 17⟩ []]],
         .node ⟨"identifier", some "declarator", true, false, false, false, 18, 19⟩ [],
         .node ⟨";", none, false, false, false, false, 19, 20⟩ []],
       .node ⟨"declaration", none, true, false, false, false, 21, 40⟩
        [.node ⟨"template_type", some "type", true, false, false, false, 21, 37⟩
          [.node ⟨"type_identifier", some "name", true, false, false, false, 21, 24⟩ [],
           .node ⟨"template_argument_list", some "arguments", true, false, false, false, 24, 37⟩
            [.node ⟨"<", none, false, false, false, false, 24, 25⟩ [],
             .node ⟨"type_descriptor", none, true, false, false, false, 25, 36⟩
              [.node ⟨"type_identifier", some "type", true, false, false, false, 25, 36⟩ []],
             .node ⟨">", none, false, false, false, false, 36, 37⟩ []]],
         .node ⟨"identifier", some "declarator", true, false, false, false, 38, 39⟩ [],
         .node ⟨";", none, false, false, false, false, 39, 40⟩ []]]
  options := .standard

theorem type_spelled_by_joined_words_boxed :
    ∃ c ∈ boxedIntegers.root.preorder, ∃ d ∈ boxedIntegers.root.preorder,
      (Place.root boxedIntegers.tree).follow? [0, 0] = some c.place ∧
      (Place.root boxedIntegers.tree).follow? [1, 0] = some d.place ∧
      c.kind = .typeRef ∧ d.kind = .typeRef ∧
      c.place.node.isOneOf Node.typeNameKinds = true ∧
      d.place.node.isOneOf Node.typeNameKinds = true ∧
      c.spelling = d.spelling := by
  have hcplace : (Place.root boxedIntegers.tree).follow? [0, 0] = some _ := rfl
  have hc : _ ∈ boxedIntegers.root.preorder :=
    mem_preorder_of_shown? (Place.In.root.of_follow? hcplace) rfl
  have hdplace : (Place.root boxedIntegers.tree).follow? [1, 0] = some _ := rfl
  have hd : _ ∈ boxedIntegers.root.preorder :=
    mem_preorder_of_shown? (Place.In.root.of_follow? hdplace) rfl
  exact ⟨_, hc, _, hd, hcplace, hdplace, rfl, rfl, rfl, rfl,
    (type_spelled_by_joined_words hc hd rfl rfl rfl rfl).2.2.1.2 (by decide)⟩

/-- The two types write different tokens and share a spelling. -/
theorem types_confused_boxed :
    ¬∀ c ∈ boxedIntegers.root.preorder, ∀ d ∈ boxedIntegers.root.preorder,
      c.kind = .typeRef → d.kind = .typeRef →
      c.place.node.isOneOf Node.typeNameKinds = true →
      d.place.node.isOneOf Node.typeNameKinds = true →
      boxedIntegers.tokensOf c ≠ boxedIntegers.tokensOf d → c.spelling ≠ d.spelling := by
  intro h
  have hcplace : (Place.root boxedIntegers.tree).follow? [0, 0] = some _ := rfl
  have hc : _ ∈ boxedIntegers.root.preorder :=
    mem_preorder_of_shown? (Place.In.root.of_follow? hcplace) rfl
  have hdplace : (Place.root boxedIntegers.tree).follow? [1, 0] = some _ := rfl
  have hd : _ ∈ boxedIntegers.root.preorder :=
    mem_preorder_of_shown? (Place.In.root.of_follow? hdplace) rfl
  have hsame :
      Text.compact "Box<unsigned int>".toList = Text.compact "Box<unsignedint>".toList := by
    decide
  have hapart : Text.tokens "Box<unsigned int>".toList ≠ Text.tokens "Box<unsignedint>".toList := by
    decide
  have hcs := spelling_of_typeName hc rfl rfl
  have hds := spelling_of_typeName hd rfl rfl
  exact h _ hc _ hd rfl rfl rfl rfl hapart (String.toList_inj.1 (hcs.trans (hsame.trans hds.symm)))

end SourceUnit

end CodeCursor
