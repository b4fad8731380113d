/-
# LanCensus.Text.Percent -- per cent escapes

In an escape, a per cent sign and two hexadecimal digits stand for a byte. Where a character may
not stand for itself, the bytes of its UTF-8 form are escaped one by one.
-/

import LanCensus.Text.Number
import LanCensus.Text.Utf8

namespace LanCensus.Text

/-! ## Reading -/

/-- The bytes of a text in which escapes stand for bytes. A per cent sign that begins no escape
stands for itself. -/
def unescapeBytes : List Char → List UInt8
  | '%' :: a :: b :: rest =>
    match digitValue? 16 a, digitValue? 16 b with
    | some x, some y => UInt8.ofNat (16 * x + y) :: unescapeBytes rest
    | _, _ => 0x25 :: unescapeBytes (a :: b :: rest)
  | c :: rest => Utf8.encodeChar c ++ unescapeBytes rest
  | [] => []

/-- **`unescape? s`** — the text that is meant by one with escapes, if it is one. -/
def unescape? (s : List Char) : Option (List Char) := Utf8.decode? (unescapeBytes s)

/-! ## Writing -/

/-- A hexadecimal digit, capital letters standing for ten and above. -/
def capitalDigit (n : Nat) : Char := Char.ofNat (if n < 10 then 0x30 + n else 0x37 + n)

/-- The escape of a byte. -/
def escapeByte (b : UInt8) : List Char :=
  ['%', capitalDigit (b.toNat / 16), capitalDigit (b.toNat % 16)]

/-- **`escape plain s`** — the text with every character escaped that is not plain. -/
def escape (plain : Char → Bool) (s : List Char) : List Char :=
  s.flatMap fun c => if plain c then [c] else (Utf8.encodeChar c).flatMap escapeByte

end LanCensus.Text
