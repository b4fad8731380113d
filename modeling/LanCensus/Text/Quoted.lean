/-
# LanCensus.Text.Quoted -- texts as they are quoted in messages

A message that mentions a text puts it in double quotes and writes what would not be seen, or
would break the quotes, as an escape.

* NUL, tab, carriage return and line feed have short escapes;
* a double quote and a backslash get a backslash in front;
* the characters of `hiddenRuns` become a backslash, the letter u and their code point in
  hexadecimal between braces.
-/

import LanCensus.Text.HiddenTable

namespace LanCensus.Text

/-- A hexadecimal digit in lower case. -/
def hexDigit (n : Nat) : Char := Nat.digitChar (n % 16)

/-- Hexadecimal text without leading zeros. -/
def hexText (n : Nat) : List Char := Nat.toDigits 16 n

/-- The quoted form of one character. -/
def quoteChar (c : Char) : List Char :=
  if c = '\x00' then ['\\', '0']
  else if c = '\t' then ['\\', 't']
  else if c = '\r' then ['\\', 'r']
  else if c = '\n' then ['\\', 'n']
  else if c = '"' then ['\\', '"']
  else if c = '\\' then ['\\', '\\']
  else if inRuns hiddenRuns c.toNat then
    ['\\', 'u', '\x7b'] ++ hexText c.toNat ++ ['\x7d']
  else [c]

/-- **`quoted s`** — the text in double quotes with its escapes. -/
def quoted (s : String) : String :=
  String.ofList ('"' :: (s.toList.flatMap quoteChar ++ ['"']))

end LanCensus.Text
