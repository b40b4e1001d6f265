import CodeCursor.Toml.Token

/-!
# Flat TOML documents

A reader of documents whose keys are all at the top and whose values are strings, integers, truth
values and arrays of these.  Any other document is refused, whether it is well formed or not:
tables, dotted keys, fractions and dates have no place in such a document.  Readers of all of TOML
exist, and nothing that is said of settings rests on this one.  It does not bound how deep arrays
are nested.
-/

namespace CodeCursor.Toml

/-- What follows blanks, line ends and comments.  A control character in a comment is an error.
`comment` tells that the text begins within one. -/
def skipGaps (comment : Bool) : List Char → Option (List Char)
  | [] => some []
  | '\n' :: rest | '\r' :: '\n' :: rest => skipGaps false rest
  | c :: rest =>
    if comment then if isText c then skipGaps true rest else none
    else if isGap c then skipGaps false rest
    else if c = '#' then skipGaps true rest
    else some (c :: rest)

/-- The characters of a value that is a single word. -/
def inWord (c : Char) : Bool :=
  c.isAlphanum || c == '_' || c == '-' || c == '+' || c == '.' || c == ':'

mutual
/-- A value, and what follows it.  The bound is on the steps, of which each takes away at least
one character. -/
def value? : Nat → List Char → Option (Value × List Char)
  | 0, _ => none
  | bound + 1, text =>
    match text with
    | '[' :: rest => do
      let (items, after) ← items? bound (← skipGaps false rest)
      some (.array items, after)
    | '"' :: '"' :: '"' :: rest => do
      let (text, after) ← linesString? '"' rest
      some (.string (String.ofList text), after)
    | '\'' :: '\'' :: '\'' :: rest => do
      let (text, after) ← linesString? '\'' rest
      some (.string (String.ofList text), after)
    | '"' :: rest => do
      let (text, after) ← lineString? '"' rest
      some (.string (String.ofList text), after)
    | '\'' :: rest => do
      let (text, after) ← lineString? '\'' rest
      some (.string (String.ofList text), after)
    | text => do some (← word? (text.takeWhile inWord), text.dropWhile inWord)

/-- The items of an array up to its closing bracket, and what follows that. -/
def items? : Nat → List Char → Option (List Value × List Char)
  | 0, _ => none
  | _ + 1, ']' :: rest => some ([], rest)
  | bound + 1, text => do
    let (item, after) ← value? bound text
    match ← skipGaps false after with
    | ',' :: rest =>
      let (items, after) ← items? bound (← skipGaps false rest)
      some (item :: items, after)
    | ']' :: rest => some ([item], rest)
    | _ => none
end

def inKey (c : Char) : Bool :=
  c.isAlphanum || c == '_' || c == '-'

/-- A key, and what follows it. -/
def key? : List Char → Option (List Char × List Char)
  | '"' :: rest => lineString? '"' rest
  | '\'' :: rest => lineString? '\'' rest
  | text =>
    match text.takeWhile inKey with
    | [] => none
    | key => some (key, text.dropWhile inKey)

/-- Whether a line may end here: nothing but blanks and a comment stands before the line end. -/
def lineMayEnd (text : List Char) : Bool :=
  match text.dropWhile isGap with
  | [] | '\n' :: _ | '\r' :: '\n' :: _ | '#' :: _ => true
  | _ => false

/-- A key with its value, and what follows the two on their line. -/
def entry? (text : List Char) : Option ((String × Value) × List Char) := do
  let (key, after) ← key? text
  match after.dropWhile isGap with
  | '=' :: rest =>
    let (value, after) ← value? (rest.length + 1) (rest.dropWhile isGap)
    if lineMayEnd after then some ((String.ofList key, value), after) else none
  | _ => none

/-- The entries of a document in order.  The bound is on their number. -/
def entries? : Nat → List Char → Option (List (String × Value))
  | 0, _ => none
  | bound + 1, text => do
    match ← skipGaps false text with
    | [] => some []
    | rest =>
      let (entry, after) ← entry? rest
      some (entry :: (← entries? bound after))

/-- The text without a byte order mark at its beginning. -/
def withoutMark : List Char → List Char
  | '\ufeff' :: rest => rest
  | text => text

/-- The table that a flat document holds.  A document that gives a key twice holds none. -/
def Table.ofDocument? (document : String) : Option Table := do
  let text := withoutMark document.toList
  let entries ← entries? (text.length + 1) text
  if h : (entries.map Prod.fst).Nodup then some ⟨entries, h⟩ else none

end CodeCursor.Toml
