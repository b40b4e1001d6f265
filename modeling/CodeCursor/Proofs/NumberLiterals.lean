import CodeCursor.Proofs.NameBearers

/-!
# Classes of numbers

A number shows as a floating or an integer literal by its characters alone.  The letters that
begin a decimal exponent are digits in a hexadecimal number, so the first two characters decide
which letters count.  A number with a sign does not begin with these two, and is always searched
for the letters of a decimal exponent.
-/

namespace CodeCursor

/-- What is to hold of the characters in a list is asked of each of them. -/
theorem forall_mem_of_all {p : Char → Prop} [DecidablePred p] {cs : List Char}
    (h : cs.all (p ·) = true) : ∀ c ∈ cs, p c :=
  fun c hc => of_decide_eq_true (List.all_eq_true.1 h c hc)

/-- The system in which a number is written, with the shape of the letter that says so.  Octal
numbers have no such letter and no digits of their own, and are among the decimal ones here. -/
inductive Radix where
  | decimal
  | binary (capital : Bool)
  | hexadecimal (capital : Bool)
deriving DecidableEq, Repr

namespace Radix

def isHexadecimal : Radix → Bool
  | hexadecimal _ => true
  | _ => false

def opening : Radix → List Char
  | decimal => []
  | binary capital => ['0', if capital then 'B' else 'b']
  | hexadecimal capital => ['0', if capital then 'X' else 'x']

/-- The digits of a number, with the mark that separates groups of them. -/
def digits (r : Radix) : List Char :=
  if r.isHexadecimal then "0123456789abcdefABCDEF'".toList else "0123456789'".toList

def exponentMarks (r : Radix) : List Char :=
  if r.isHexadecimal then ['p', 'P'] else ['e', 'E']

end Radix

/-- The part of a number that begins with a letter for the exponent. -/
structure Exponent where
  mark : Char
  sign : Option Char
  digits : List Char
deriving DecidableEq, Repr

namespace Numeral

def signs : List Char := ['-', '+']

/-- Digits that the grammars admit after a point and in an exponent of any number. -/
def lateDigits : List Char := (Radix.hexadecimal false).digits

/-- The letters and figures of suffixes such as `ULL`, `f` and `bf16`. -/
def suffixes : List Char := "uUlLwWfFbBdDiI0123456789".toList

end Numeral

/-- A number as the grammars write it: a sign, the letters for its radix, its digits, a point with
further digits, an exponent and a suffix.  Only digits must be there, before the point or after. -/
structure Numeral where
  sign : Option Char
  radix : Radix
  whole : List Char
  fraction : Option (List Char)
  exponent : Option Exponent
  suffix : List Char
  sign_mem : ∀ c ∈ sign, c ∈ Numeral.signs
  whole_mem : ∀ c ∈ whole, c ∈ radix.digits
  fraction_mem : ∀ part ∈ fraction, ∀ c ∈ part, c ∈ Numeral.lateDigits
  mark_mem : ∀ e ∈ exponent, e.mark ∈ radix.exponentMarks
  exponent_sign_mem : ∀ e ∈ exponent, ∀ c ∈ e.sign, c ∈ Numeral.signs
  exponent_mem : ∀ e ∈ exponent, ∀ c ∈ e.digits, c ∈ Numeral.lateDigits
  suffix_mem : ∀ c ∈ suffix, c ∈ Numeral.suffixes
  digits_ne_nil : whole ++ fraction.getD [] ≠ []

namespace Numeral

def pointText (n : Numeral) : List Char :=
  match n.fraction with
  | none => []
  | some part => '.' :: part

def exponentText (n : Numeral) : List Char :=
  match n.exponent with
  | none => []
  | some e => e.mark :: (e.sign.toList ++ e.digits)

def text (n : Numeral) : List Char :=
  n.sign.toList ++ n.radix.opening ++ n.whole ++ n.pointText ++ n.exponentText ++ n.suffix

/-- Whether one of the digits before the point or of the exponent is a letter that elsewhere
begins a decimal exponent. -/
def hasDigitE (n : Numeral) : Bool :=
  (n.whole ++ (n.exponent.map (·.digits)).getD []).any fun c => c == 'e' || c == 'E'

variable (n : Numeral)

theorem mem_text_iff {c : Char} :
    c ∈ n.text ↔ c ∈ n.sign ∨ c ∈ n.radix.opening ∨ c ∈ n.whole ∨ c ∈ n.pointText ∨
      c ∈ n.exponentText ∨ c ∈ n.suffix := by
  simp only [text, List.mem_append, Option.mem_toList, Option.mem_def, or_assoc]

theorem mem_pointText_iff {c : Char} :
    c ∈ n.pointText ↔ ∃ part ∈ n.fraction, c = '.' ∨ c ∈ part := by
  rw [pointText]
  cases n.fraction <;> simp

theorem mem_exponentText_iff {c : Char} :
    c ∈ n.exponentText ↔ ∃ e ∈ n.exponent, c = e.mark ∨ c ∈ e.sign ∨ c ∈ e.digits := by
  rw [exponentText]
  cases n.exponent <;> simp

/-- The characters that are looked for in a number. -/
def sought : List Char := ['.', 'e', 'E', 'p', 'P']

theorem opening_subset (r : Radix) : r.opening ⊆ ['0', 'b', 'B', 'x', 'X'] := by
  cases r with
  | decimal => decide
  | binary capital => cases capital <;> decide
  | hexadecimal capital => cases capital <;> decide

/-- What is looked for is never a sign, nor in the opening or the suffix. -/
theorem mem_text_iff_of_sought {c : Char} (hc : c ∈ sought) :
    c ∈ n.text ↔ c ∈ n.whole ∨ (∃ part ∈ n.fraction, c = '.' ∨ c ∈ part) ∨
      ∃ e ∈ n.exponent, c = e.mark ∨ c ∈ e.digits := by
  have hother : ∀ c ∈ sought, c ∉ signs ∧ c ∉ ['0', 'b', 'B', 'x', 'X'] ∧ c ∉ suffixes :=
    forall_mem_of_all (by decide)
  obtain ⟨hsign, hopening, hsuffix⟩ := hother c hc
  rw [mem_text_iff, mem_pointText_iff, mem_exponentText_iff]
  constructor
  · rintro (h | h | h | h | ⟨e, he, h | h | h⟩ | h)
    · exact absurd (n.sign_mem c h) hsign
    · exact absurd (opening_subset _ h) hopening
    · exact .inl h
    · exact .inr (.inl h)
    · exact .inr (.inr ⟨e, he, .inl h⟩)
    · exact absurd (n.exponent_sign_mem e he c h) hsign
    · exact .inr (.inr ⟨e, he, .inr h⟩)
    · exact absurd (n.suffix_mem c h) hsuffix
  · rintro (h | h | ⟨e, he, h | h⟩)
    · exact .inr (.inr (.inl h))
    · exact .inr (.inr (.inr (.inl h)))
    · exact .inr (.inr (.inr (.inr (.inl ⟨e, he, .inl h⟩))))
    · exact .inr (.inr (.inr (.inr (.inl ⟨e, he, .inr (.inr h)⟩))))

theorem not_mem_digits (r : Radix) {c : Char} (h : c ∉ lateDigits) : c ∉ r.digits := by
  have hsub : "0123456789'".toList ⊆ lateDigits := by decide
  rw [Radix.digits]
  split
  · exact h
  · exact fun hmem => h (hsub hmem)

theorem point_mem_text_iff : '.' ∈ n.text ↔ n.fraction.isSome = true := by
  have hlate : '.' ∉ lateDigits := by decide
  have hmark : ∀ r : Radix, '.' ∉ r.exponentMarks := by
    intro r
    rw [Radix.exponentMarks]
    split <;> decide
  rw [n.mem_text_iff_of_sought (by decide), Option.isSome_iff_exists]
  constructor
  · rintro (h | ⟨part, hpart, -⟩ | ⟨e, he, h | h⟩)
    · exact absurd (n.whole_mem _ h) (not_mem_digits _ hlate)
    · exact ⟨part, hpart⟩
    · exact absurd (h ▸ n.mark_mem e he) (hmark _)
    · exact absurd (n.exponent_mem e he _ h) hlate
  · rintro ⟨part, hpart⟩
    exact .inr (.inl ⟨part, hpart, .inl rfl⟩)

/-- The letters that can begin the exponent of a number are none of its digits, so with a point
apart they stand for an exponent. -/
theorem mark_mem_text_iff :
    ('.' ∈ n.text ∨ ∃ c ∈ n.radix.exponentMarks, c ∈ n.text) ↔
      n.fraction.isSome = true ∨ n.exponent.isSome = true := by
  have hmarks : ∀ c ∈ n.radix.exponentMarks, c ∈ sought ∧ c ∉ n.radix.digits := by
    rw [Radix.exponentMarks, Radix.digits]
    split
    · exact forall_mem_of_all (by decide)
    · exact forall_mem_of_all (by decide)
  rw [point_mem_text_iff]
  constructor
  · rintro (hpoint | ⟨c, hc, h⟩)
    · exact .inl hpoint
    · rcases (n.mem_text_iff_of_sought (hmarks c hc).1).1 h with h | ⟨part, hpart, -⟩ | ⟨e, he, -⟩
      · exact absurd (n.whole_mem c h) (hmarks c hc).2
      · exact .inl (Option.isSome_iff_exists.2 ⟨part, hpart⟩)
      · exact .inr (Option.isSome_iff_exists.2 ⟨e, he⟩)
  · rintro (hpoint | hexponent)
    · exact .inl hpoint
    · obtain ⟨e, he⟩ := Option.isSome_iff_exists.1 hexponent
      have hmark := n.mark_mem e he
      exact .inr ⟨e.mark, hmark,
        (n.mem_text_iff_of_sought (hmarks _ hmark).1).2 (.inr (.inr ⟨e, he, .inl rfl⟩))⟩

theorem hasDigitE_eq_true_iff :
    n.hasDigitE = true ↔ ∃ c ∈ ['e', 'E'], c ∈ n.whole ∨ ∃ e ∈ n.exponent, c ∈ e.digits := by
  rw [hasDigitE, List.any_eq_true]
  constructor
  · rintro ⟨c, hc, he⟩
    refine ⟨c, by simpa using he, ?_⟩
    rcases List.mem_append.1 hc with hc | hc
    · exact .inl hc
    · cases hexponent : n.exponent with
      | none => simp [hexponent] at hc
      | some e => exact .inr ⟨e, rfl, by simpa [hexponent] using hc⟩
  · rintro ⟨c, he, hc⟩
    refine ⟨c, ?_, by simpa using he⟩
    rcases hc with hc | ⟨e, hexponent, hc⟩
    · exact List.mem_append_left _ hc
    · apply List.mem_append_right
      rw [Option.mem_def.1 hexponent]
      exact hc

/-- In a hexadecimal number the letters of a decimal exponent are digits. -/
theorem digitE_mem_text_iff (hhex : n.radix.isHexadecimal = true) :
    ('.' ∈ n.text ∨ ∃ c ∈ ['e', 'E'], c ∈ n.text) ↔
      n.fraction.isSome = true ∨ n.hasDigitE = true := by
  have hsought : ∀ c ∈ ['e', 'E'], c ∈ sought ∧ c ∉ ['p', 'P'] := forall_mem_of_all (by decide)
  rw [point_mem_text_iff, hasDigitE_eq_true_iff]
  constructor
  · rintro (hpoint | ⟨c, hc, h⟩)
    · exact .inl hpoint
    · rcases (n.mem_text_iff_of_sought (hsought c hc).1).1 h with
        h | ⟨part, hpart, -⟩ | ⟨e, he, h | h⟩
      · exact .inr ⟨c, hc, .inl h⟩
      · exact .inl (Option.isSome_iff_exists.2 ⟨part, hpart⟩)
      · have hmark := n.mark_mem e he
        rw [Radix.exponentMarks, if_pos hhex, ← h] at hmark
        exact absurd hmark (hsought c hc).2
      · exact .inr ⟨c, hc, .inr ⟨e, he, h⟩⟩
  · rintro (hpoint | ⟨c, hc, h | ⟨e, he, h⟩⟩)
    · exact .inl hpoint
    · exact .inr ⟨c, hc, (n.mem_text_iff_of_sought (hsought c hc).1).2 (.inl h)⟩
    · exact .inr ⟨c, hc,
        (n.mem_text_iff_of_sought (hsought c hc).1).2 (.inr (.inr ⟨e, he, .inr h⟩))⟩

/-- Whether a text begins as a hexadecimal number without a sign. -/
def beginsHexadecimal : List Char → Bool
  | '0' :: 'x' :: _ | '0' :: 'X' :: _ => true
  | _ => false

theorem mem_of_beginsHexadecimal {text : List Char} (h : beginsHexadecimal text = true) :
    ∃ c ∈ ['x', 'X'], c ∈ text := by
  unfold beginsHexadecimal at h
  split at h
  · exact ⟨'x', by decide, by simp⟩
  · exact ⟨'X', by decide, by simp⟩
  · contradiction

theorem isFloating_iff (text : List Char) :
    isFloating text = true ↔
      '.' ∈ text ∨ ∃ c ∈ if beginsHexadecimal text then ['p', 'P'] else ['e', 'E'], c ∈ text := by
  have hany : ∀ marks : List Char,
      (text.any fun c => c == '.' || marks.contains c) = true ↔
        '.' ∈ text ∨ ∃ c ∈ marks, c ∈ text := by
    intro marks
    simp only [List.any_eq_true, Bool.or_eq_true, beq_iff_eq, List.contains_iff_mem]
    constructor
    · rintro ⟨c, hc, rfl | hmark⟩
      · exact .inl hc
      · exact .inr ⟨c, hmark, hc⟩
    · rintro (hc | ⟨c, hmark, hc⟩)
      · exact ⟨'.', hc, .inl rfl⟩
      · exact ⟨c, hc, .inr hmark⟩
  rw [← hany]
  unfold isFloating beginsHexadecimal
  split
  · simp [or_assoc]
  · simp [or_assoc]
  · simp [or_assoc]

/-- No other number holds the letter of a hexadecimal one. -/
theorem not_mem_text (hradix : n.radix.isHexadecimal = false) :
    ∀ c ∈ ['x', 'X'], c ∉ n.text := by
  have hother : ∀ c ∈ ['x', 'X'], c ∉ signs ∧ c ∉ ['0', 'b', 'B'] ∧ c ∉ lateDigits ∧ c ≠ '.' ∧
      c ∉ ['e', 'E'] ∧ c ∉ suffixes :=
    forall_mem_of_all (by decide)
  have hopening : n.radix.opening ⊆ ['0', 'b', 'B'] := by
    cases hr : n.radix with
    | decimal => decide
    | binary capital => cases capital <;> decide
    | hexadecimal capital => simp [hr, Radix.isHexadecimal] at hradix
  intro c hc h
  obtain ⟨hsign, hno, hlate, hpoint, hmark, hsuffix⟩ := hother c hc
  rw [mem_text_iff, mem_pointText_iff, mem_exponentText_iff] at h
  rcases h with h | h | h | ⟨part, hpart, h | h⟩ | ⟨e, he, h | h | h⟩ | h
  · exact hsign (n.sign_mem c h)
  · exact hno (hopening h)
  · exact not_mem_digits _ hlate (n.whole_mem c h)
  · exact hpoint h
  · exact hlate (n.fraction_mem part hpart c h)
  · have he := n.mark_mem e he
    rw [Radix.exponentMarks, hradix, ← h] at he
    exact hmark he
  · exact hsign (n.exponent_sign_mem e he c h)
  · exact hlate (n.exponent_mem e he c h)
  · exact hsuffix (n.suffix_mem c h)

/-- A sign takes the place of the first character that tells a hexadecimal number. -/
theorem beginsHexadecimal_text :
    beginsHexadecimal n.text = (n.sign.isNone && n.radix.isHexadecimal) := by
  cases hradix : n.radix.isHexadecimal with
  | false =>
    rw [Bool.and_false, ← Bool.not_eq_true]
    intro h
    obtain ⟨c, hc, hmem⟩ := mem_of_beginsHexadecimal h
    exact n.not_mem_text hradix c hc hmem
  | true =>
    cases hsign : n.sign with
    | some c =>
      have hc : c = '-' ∨ c = '+' := by simpa [signs] using n.sign_mem c hsign
      rcases hc with rfl | rfl <;> simp [text, hsign, beginsHexadecimal]
    | none =>
      cases hr : n.radix with
      | hexadecimal capital => cases capital <;> simp [text, hsign, hr, Radix.opening, beginsHexadecimal]
      | decimal | binary => simp [hr, Radix.isHexadecimal] at hradix

/-- Without a sign before a hexadecimal number the search finds what its radix asks for. -/
theorem isFloating_text_iff (h : n.sign = none ∨ n.radix.isHexadecimal = false) :
    isFloating n.text = true ↔ n.fraction.isSome = true ∨ n.exponent.isSome = true := by
  have hmarks : (if beginsHexadecimal n.text then ['p', 'P'] else ['e', 'E']) =
      n.radix.exponentMarks := by
    rw [beginsHexadecimal_text, Radix.exponentMarks]
    rcases h with hsign | hradix
    · rw [hsign, Option.isNone_none, Bool.true_and]
    · rw [hradix, Bool.and_false]
  rw [isFloating_iff, hmarks, mark_mem_text_iff]

/-- Behind a sign the digits of a hexadecimal number are taken for the exponent of a decimal
one. -/
theorem isFloating_text_iff_of_signed (hsign : n.sign.isSome = true)
    (hhex : n.radix.isHexadecimal = true) :
    isFloating n.text = true ↔ n.fraction.isSome = true ∨ n.hasDigitE = true := by
  have hnone : n.sign.isNone = false := by rw [← Option.not_isSome, hsign]; rfl
  rw [isFloating_iff, beginsHexadecimal_text, hnone, Bool.false_and, if_neg Bool.false_ne_true,
    n.digitE_mem_text_iff hhex]

end Numeral

theorem Place.kindExposure_number (options : Options) (source : Source) {p : Place}
    (h : p.node.kind = "number_literal") :
    p.kindExposure options source =
      .cursor (if isFloating (source.slice p.node.label.start p.node.label.stop) then
        .floatingLiteral else .integerLiteral) := by
  simp only [kindExposure, plainExposure, Node.directiveKind?, h]
  rfl

namespace SourceUnit

/-- The kind of a number cursor, by its text. -/
theorem kind_of_number {u : SourceUnit} {c : Cursor} (hc : c ∈ u.root.preorder)
    (hkind : c.place.node.kind = "number_literal") (hroot : c.place.isRoot = false)
    (hfield : c.place.node.inField "declarator" = false) :
    c.kind = if isFloating (u.textOf c.place.node) then .floatingLiteral else .integerLiteral := by
  obtain ⟨parent, -, ⟨hin, -, -⟩ | ⟨-, h⟩⟩ := exposure_of_cursor hc hroot
  · rw [hfield] at hin
    contradiction
  · rw [Place.kindExposure_number _ _ hkind] at h
    exact (Exposure.cursor.inj h).symm

/-- A number shows as a floating or an integer literal.  It is a floating one if it has a point or
an exponent, with or without a sign, unless it is a hexadecimal number with a sign.  Of such a
number the exponent does not count, and the digit `e` before a point or in the exponent does. -/
theorem number_shown_by_parts {u : SourceUnit} {c : Cursor} {n : Numeral}
    (hc : c ∈ u.root.preorder) (hkind : c.place.node.kind = "number_literal")
    (hroot : c.place.isRoot = false) (hfield : c.place.node.inField "declarator" = false)
    (htext : u.textOf c.place.node = n.text) :
    (c.kind = .floatingLiteral ∨ c.kind = .integerLiteral) ∧
    (n.sign = none ∨ n.radix.isHexadecimal = false →
      (c.kind = .floatingLiteral ↔ n.fraction.isSome = true ∨ n.exponent.isSome = true)) ∧
    (n.sign.isSome = true → n.radix.isHexadecimal = true →
      (c.kind = .floatingLiteral ↔ n.fraction.isSome = true ∨ n.hasDigitE = true)) := by
  have hshown := kind_of_number hc hkind hroot hfield
  rw [htext] at hshown
  have hfloating : c.kind = .floatingLiteral ↔ isFloating n.text = true := by
    rw [hshown]
    split
    · rename_i h
      simp [h]
    · rename_i h
      simp [h]
  refine ⟨?_, ?_, ?_⟩
  · rw [hshown]
    split
    · exact .inl rfl
    · exact .inr rfl
  · intro h
    rw [hfloating, n.isFloating_text_iff h]
  · intro hsign hhex
    rw [hfloating, n.isFloating_text_iff_of_signed hsign hhex]

/-- An integer and a floating number, both hexadecimal and with a sign. -/
def negatives : SourceUnit where
  path := "unit.c"
  dialect := .c
  source := .ofString "int a = -0xE;\ndouble b = -0x1p3;"
  tree :=
    .node ⟨"translation_unit", none, true, false, false, false, 0, 32⟩
      [.node ⟨"declaration", none, true, false, false, false, 0, 13⟩
        [.node ⟨"primitive_type", some "type", true, false, false, false, 0, 3⟩ [],
         .node ⟨"init_declarator", some "declarator", true, false, false, false, 4, 12⟩
          [.node ⟨"identifier", some "declarator", true, false, false, false, 4, 5⟩ [],
           .node ⟨"=", none, false, false, false, false, 6, 7⟩ [],
           .node ⟨"number_literal", some "value", true, false, false, false, 8, 12⟩ []],
         .node ⟨";", none, false, false, false, false, 12, 13⟩ []],
       .node ⟨"declaration", none, true, false, false, false, 14, 32⟩
        [.node ⟨"primitive_type", some "type", true, false, false, false, 14, 20⟩ [],
         .node ⟨"init_declarator", some "declarator", true, false, false, false, 21, 31⟩
          [.node ⟨"identifier", some "declarator", true, false, false, false, 21, 22⟩ [],
           .node ⟨"=", none, false, false, false, false, 23, 24⟩ [],
           .node ⟨"number_literal", some "value", true, false, false, false, 25, 31⟩ []],
         .node ⟨";", none, false, false, false, false, 31, 32⟩ []]]
  options := .standard

/-- The integer of `negatives`. -/
def minusFourteen : Numeral where
  sign := some '-'
  radix := .hexadecimal false
  whole := ['E']
  fraction := none
  exponent := none
  suffix := []
  sign_mem := by simp [Numeral.signs]
  whole_mem := forall_mem_of_all (by decide)
  fraction_mem := by decide
  mark_mem := by decide
  exponent_sign_mem := by decide
  exponent_mem := by decide
  suffix_mem := by simp
  digits_ne_nil := by decide

/-- The floating number of `negatives`. -/
def minusEight : Numeral where
  sign := some '-'
  radix := .hexadecimal false
  whole := ['1']
  fraction := none
  exponent := some ⟨'p', none, ['3']⟩
  suffix := []
  sign_mem := by simp [Numeral.signs]
  whole_mem := forall_mem_of_all (by decide)
  fraction_mem := by decide
  mark_mem := by decide
  exponent_sign_mem := by simp
  exponent_mem := by
    rintro e ⟨⟩
    exact forall_mem_of_all (by decide)
  suffix_mem := by simp
  digits_ne_nil := by decide

/-- The digit of the integer is taken for an exponent. -/
theorem number_shown_by_parts_negatives :
    ∃ c ∈ negatives.root.preorder,
      (Place.root negatives.tree).follow? [0, 1, 2] = some c.place ∧
      c.place.node.kind = "number_literal" ∧ c.place.isRoot = false ∧
      c.place.node.inField "declarator" = false ∧
      negatives.textOf c.place.node = minusFourteen.text ∧ c.kind = .floatingLiteral := by
  have hplace : (Place.root negatives.tree).follow? [0, 1, 2] = some _ := rfl
  have hc : _ ∈ negatives.root.preorder :=
    mem_preorder_of_shown? (Place.In.root.of_follow? hplace) rfl
  exact ⟨_, hc, hplace, rfl, rfl, rfl, rfl,
    ((number_shown_by_parts (n := minusFourteen) hc rfl rfl rfl rfl).2.2 rfl rfl).2
      (.inr (by decide))⟩

/-- With their signs both numbers change their class: the integer shows as a floating literal and
the floating number as an integer literal. -/
theorem class_changed_negatives :
    (¬∀ c ∈ negatives.root.preorder, c.place.node.kind = "number_literal" → ∀ n : Numeral,
      negatives.textOf c.place.node = n.text → c.kind = .floatingLiteral →
      n.fraction.isSome = true ∨ n.exponent.isSome = true) ∧
    ¬∀ c ∈ negatives.root.preorder, c.place.node.kind = "number_literal" → ∀ n : Numeral,
      negatives.textOf c.place.node = n.text →
      n.fraction.isSome = true ∨ n.exponent.isSome = true → c.kind = .floatingLiteral := by
  constructor
  · intro h
    have hplace : (Place.root negatives.tree).follow? [0, 1, 2] = some _ := rfl
    have hc : _ ∈ negatives.root.preorder :=
      mem_preorder_of_shown? (Place.In.root.of_follow? hplace) rfl
    exact absurd (h _ hc rfl minusFourteen rfl rfl) (by decide)
  · intro h
    have hplace : (Place.root negatives.tree).follow? [1, 1, 2] = some _ := rfl
    have hc : _ ∈ negatives.root.preorder :=
      mem_preorder_of_shown? (Place.In.root.of_follow? hplace) rfl
    exact absurd (h _ hc rfl minusEight rfl (.inr rfl)) (by decide)

end SourceUnit

end CodeCursor
