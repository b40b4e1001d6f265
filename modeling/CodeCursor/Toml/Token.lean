import CodeCursor.Toml.Value

/-!
# TOML strings and numbers

How the texts of strings, integers and truth values are read.  A string is first cut out up to
its closing quotes, where only an escaped quote is passed over, and then its escapes and line
ends are resolved.
-/

namespace CodeCursor.Toml

/-- The characters that stand for themselves: all but controls, with the tab among them. -/
def isText (c : Char) : Bool :=
  c == '\t' || (decide (' ' ≤ c) && c != '\x7f')

def isGap (c : Char) : Bool :=
  c == ' ' || c == '\t'

def digit? (base : Nat) (c : Char) : Option Nat :=
  let value? :=
    if '0' ≤ c ∧ c ≤ '9' then some (c.toNat - '0'.toNat)
    else if 'a' ≤ c ∧ c ≤ 'f' then some (c.toNat - 'a'.toNat + 10)
    else if 'A' ≤ c ∧ c ≤ 'F' then some (c.toNat - 'A'.toNat + 10)
    else none
  value?.filter (· < base)

def ofDigits (base : Nat) (digits : List Nat) : Nat :=
  digits.foldl (fun value digit => base * value + digit) 0

/-- The character with the code point that hexadecimal digits write, if there is one. -/
def scalar? (digits : List Char) : Option Char := do
  let code := ofDigits 16 (← digits.mapM (digit? 16))
  if h : code.isValidChar then some (Char.ofNatAux code h) else none

/-- What a single letter after a backslash stands for. -/
def letterEscape? (c : Char) : Option Char :=
  [('b', '\x08'), ('t', '\t'), ('n', '\n'), ('f', '\x0c'), ('r', '\r'), ('"', '"'),
   ('\\', '\\')].lookup c

/-- Whether nothing but blanks stands before the next line end. -/
def endsLine (text : List Char) : Bool :=
  match text.dropWhile isGap with
  | '\n' :: _ | '\r' :: '\n' :: _ => true
  | _ => false

/-- The text of a string with escapes, from what stands between its quotes.  Line ends are only
allowed in a string of several lines.  There, a backslash at the end of a line takes away all
blanks and line ends up to the next other character, and `skipping` tells that this is going
on. -/
def unescape (severalLines skipping : Bool) : List Char → Option (List Char)
  | [] => some []
  | '\r' :: '\n' :: rest | '\n' :: rest =>
    if !severalLines then none
    else if skipping then unescape severalLines true rest
    else (unescape severalLines false rest).map ('\n' :: ·)
  | '\\' :: 'u' :: a :: b :: c :: d :: rest => do
    let char ← scalar? [a, b, c, d]
    (unescape severalLines false rest).map (char :: ·)
  | '\\' :: 'U' :: a :: b :: c :: d :: e :: f :: g :: h :: rest => do
    let char ← scalar? [a, b, c, d, e, f, g, h]
    (unescape severalLines false rest).map (char :: ·)
  | '\\' :: c :: rest =>
    match letterEscape? c with
    | some char => (unescape severalLines false rest).map (char :: ·)
    | none =>
      if severalLines && endsLine (c :: rest) then unescape severalLines true rest else none
  | c :: rest =>
    if skipping && isGap c then unescape severalLines true rest
    else if isText c && c != '\\' then (unescape severalLines false rest).map (c :: ·)
    else none

/-- The text of a string without escapes, from what stands between its quotes. -/
def unfold (severalLines : Bool) : List Char → Option (List Char)
  | [] => some []
  | '\r' :: '\n' :: rest | '\n' :: rest =>
    if severalLines then (unfold severalLines rest).map ('\n' :: ·) else none
  | c :: rest => if isText c then (unfold severalLines rest).map (c :: ·) else none

/-- The text up to a closing quote, and what follows the quote. -/
def cutLine (quote : Char) (escapes : Bool) : List Char → Option (List Char × List Char)
  | [] => none
  | c :: rest =>
    if c = quote then some ([], rest)
    else if escapes && c == '\\' then
      match rest with
      | [] => none
      | d :: rest => (cutLine quote escapes rest).map fun (body, after) => (c :: d :: body, after)
    else (cutLine quote escapes rest).map fun (body, after) => (c :: body, after)

/-- The text up to three closing quotes, and what follows them.  Up to two more quotes right
before the closing ones belong to the text. -/
def cutLines (quote : Char) (escapes : Bool) : List Char → Option (List Char × List Char)
  | [] => none
  | c :: rest =>
    let run := ((c :: rest).takeWhile (· == quote)).length
    if 3 ≤ run then
      some (List.replicate (min run 5 - 3) quote, (c :: rest).drop (min run 5))
    else if escapes && c == '\\' then
      match rest with
      | [] => none
      | d :: rest => (cutLines quote escapes rest).map fun (body, after) => (c :: d :: body, after)
    else (cutLines quote escapes rest).map fun (body, after) => (c :: body, after)

def dropLineEnd : List Char → List Char
  | '\n' :: rest | '\r' :: '\n' :: rest => rest
  | text => text

/-- A string on one line, and what follows it.  The text begins after the opening quote. -/
def lineString? (quote : Char) (text : List Char) : Option (List Char × List Char) := do
  let escapes := quote == '"'
  let (body, after) ← cutLine quote escapes text
  let value ← if escapes then unescape false false body else unfold false body
  some (value, after)

/-- A string of several lines, and what follows it.  The text begins after the opening quotes. -/
def linesString? (quote : Char) (text : List Char) : Option (List Char × List Char) := do
  let escapes := quote == '"'
  let (body, after) ← cutLines quote escapes (dropLineEnd text)
  let value ← if escapes then unescape true false body else unfold true body
  some (value, after)

/-- Digits of a base, between which single underscores may stand. -/
def digits? (base : Nat) : List Char → Option (List Nat)
  | [] => none
  | [c] => (digit? base c).map ([·])
  | c :: '_' :: rest => do some ((← digit? base c) :: (← digits? base rest))
  | c :: rest => do some ((← digit? base c) :: (← digits? base rest))

/-- A number without a sign and with no needless zero in front. -/
def decimal? (text : List Char) : Option Nat := do
  let digits ← digits? 10 text
  if digits.head? == some 0 && digits.length != 1 then none else some (ofDigits 10 digits)

/-- The number in 64 bits, if it fits into them. -/
def fitted? (value : Int) : Option Int64 :=
  if -0x8000000000000000 ≤ value ∧ value < 0x8000000000000000 then some (.ofInt value) else none

def integer? (text : List Char) : Option Int64 :=
  let value? : Option Int :=
    match text with
    | '0' :: 'x' :: rest => (digits? 16 rest).map fun digits => (ofDigits 16 digits : Int)
    | '0' :: 'o' :: rest => (digits? 8 rest).map fun digits => (ofDigits 8 digits : Int)
    | '0' :: 'b' :: rest => (digits? 2 rest).map fun digits => (ofDigits 2 digits : Int)
    | '-' :: rest => (decimal? rest).map fun value => -(value : Int)
    | '+' :: rest => (decimal? rest).map fun value => (value : Int)
    | rest => (decimal? rest).map fun value => (value : Int)
  value?.bind fitted?

def word? (text : List Char) : Option Value :=
  if text = "true".toList then some (.boolean true)
  else if text = "false".toList then some (.boolean false)
  else (integer? text).map .integer

end CodeCursor.Toml
