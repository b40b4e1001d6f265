import CodeCursor.Text.CharRanges

/-!
# Blanks and words

The blanks are the characters of the Unicode property White_Space.  A text is read as words, the
maximal runs without a blank; trimming, joining and closing up a text are stated on the same
class.
-/

namespace CodeCursor.Text

/-- The code points of the property White_Space. -/
def blankRanges : List CharRange :=
  [(0x9, 0xD), (0x20, 0x20), (0x85, 0x85), (0xA0, 0xA0), (0x1680, 0x1680), (0x2000, 0x200A),
   (0x2028, 0x2029), (0x202F, 0x202F), (0x205F, 0x205F), (0x3000, 0x3000)]

def isBlank (c : Char) : Bool :=
  covered blankRanges c.toNat

/-- The pieces of a text between its blanks, in order.  Two blanks in a row enclose an empty
piece, so there is one piece more than there are blanks. -/
def pieces : List Char → List (List Char)
  | [] => [[]]
  | c :: rest =>
    if isBlank c then [] :: pieces rest
    else
      match pieces rest with
      | [] => [[c]]
      | piece :: others => (c :: piece) :: others

/-- The words of a text: its maximal runs without a blank. -/
def words (text : List Char) : List (List Char) :=
  (pieces text).filter fun piece => !piece.isEmpty

/-- The words with one space between neighbours. -/
def spaced (text : List Char) : List Char :=
  [' '].intercalate (words text)

def compact (text : List Char) : List Char :=
  text.filter fun c => !isBlank c

/-- The text without the characters of a class at its beginning and its end. -/
def trimOf (drop : Char → Bool) (text : List Char) : List Char :=
  ((text.dropWhile drop).reverse.dropWhile drop).reverse

/-- The text without blanks at its beginning and its end. -/
def trim (text : List Char) : List Char :=
  trimOf isBlank text

theorem pieces_ne_nil (text : List Char) : pieces text ≠ [] := by
  cases text with
  | nil => simp [pieces]
  | cons c rest =>
    unfold pieces
    split
    · simp
    · split <;> simp

/-- Nothing but blanks is lost between the pieces. -/
theorem flatten_pieces (text : List Char) : (pieces text).flatten = compact text := by
  induction text with
  | nil => rfl
  | cons c rest ih =>
    unfold pieces
    by_cases hc : isBlank c
    · simpa [hc, compact] using ih
    · cases hp : pieces rest with
      | nil => exact absurd hp (pieces_ne_nil rest)
      | cons piece others => simp_all [compact]

theorem flatten_words (text : List Char) : (words text).flatten = compact text := by
  rw [← flatten_pieces, words]
  induction pieces text with
  | nil => rfl
  | cons piece others ih => cases piece <;> simp_all

end CodeCursor.Text
