import CodeCursor.Text.GraphemeExtend
import CodeCursor.Text.Unprintable

/-!
# Quoted text

A text shown in double quotes.  The quote and the backslash are written after a backslash, the
null character, the tab, the line feed and the carriage return by a letter of their own, and
every other character without a glyph of its own by its code point in lower-case hexadecimal.
-/

namespace CodeCursor.Text

/-- A number in lower-case hexadecimal, without leading zeros. -/
def hexDigits (n : Nat) : List Char :=
  Nat.toDigits 16 n

/-- One character as it stands between the quotes. -/
def escaped (c : Char) : List Char :=
  if c = '\x00' then ['\\', '0']
  else if c = '\t' then ['\\', 't']
  else if c = '\n' then ['\\', 'n']
  else if c = '\r' then ['\\', 'r']
  else if c = '"' then ['\\', '"']
  else if c = '\\' then ['\\', '\\']
  else if extendsGrapheme c || isUnprintable c then
    ['\\', 'u', '\x7b'] ++ hexDigits c.toNat ++ ['\x7d']
  else [c]

/-- The text in double quotes, each character escaped on its own. -/
def quoted (text : List Char) : List Char :=
  '"' :: text.flatMap escaped ++ ['"']

end CodeCursor.Text
