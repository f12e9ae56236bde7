import SeamCarving.Text.Unprintable

/-!
# Quoted text

A text between double quotes, as error reports show it. The double quote, the backslash and four control
characters have an escape of two characters; every other character without a printed form is written as its
code point in braces. The quoted form never holds a bare double quote between its ends.
-/

namespace SeamCarving.Text

/-- The code point in lowercase hexadecimal between braces, after a backslash and the letter u. -/
def codePointEscape (c : Char) : List Char :=
  ['\\', 'u', '\x7b'] ++ Nat.toDigits 16 c.toNat ++ ['\x7d']

/-- What one character looks like inside a quoted text. -/
def escape (c : Char) : List Char :=
  if c = '"' then ['\\', '"']
  else if c = '\\' then ['\\', '\\']
  else if c = '\n' then ['\\', 'n']
  else if c = '\t' then ['\\', 't']
  else if c = '\r' then ['\\', 'r']
  else if c = '\x00' then ['\\', '0']
  else if isUnprintable c then codePointEscape c
  else [c]

/-- The text between double quotes, each character escaped where it has to be. -/
def quoted (text : String) : String :=
  String.ofList ('"' :: text.toList.flatMap escape ++ ['"'])

end SeamCarving.Text
