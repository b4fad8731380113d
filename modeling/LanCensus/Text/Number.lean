/-
# LanCensus.Text.Number -- whole numbers as texts

Reading of unsigned numbers with an upper bound. A number is a run of digits that may have one
plus sign in front; leading zeros are allowed and count for nothing. A value above the bound is
no number at all, however long its text is.
-/

namespace LanCensus.Text

/-- One more than the greatest number of 64 bits. -/
abbrev wordBound : Nat := 18446744073709551616

/-- One more than the greatest number of 64 bits with a sign. -/
abbrev signedBound : Nat := 9223372036854775808

/-- One more than the greatest number of 32 bits. -/
abbrev halfWordBound : Nat := 4294967296

/-- The value of a digit in the given base, letters of either case standing for ten and above. -/
def digitValue? (base : Nat) (c : Char) : Option Nat :=
  let v :=
    if '0' ≤ c ∧ c ≤ '9' then c.toNat - '0'.toNat
    else if 'a' ≤ c ∧ c ≤ 'z' then c.toNat - 'a'.toNat + 10
    else if 'A' ≤ c ∧ c ≤ 'Z' then c.toNat - 'A'.toNat + 10
    else base
  if v < base then some v else none

/-- Reads digits to the end of the text, starting from the value `acc` of those before. -/
def digitsFrom (base acc : Nat) : List Char → Option Nat
  | [] => some acc
  | c :: rest => (digitValue? base c).bind fun d => digitsFrom base (acc * base + d) rest

/-- A non-empty run of digits. -/
def digits? (base : Nat) (s : List Char) : Option Nat :=
  if s.isEmpty then none else digitsFrom base 0 s

/-- The text without its plus sign. -/
def dropPlus : List Char → List Char
  | '+' :: rest => rest
  | s => s

/-- **`unsigned? base bound s`** — the number that the text writes, if it is below `bound`. -/
def unsigned? (base bound : Nat) (s : List Char) : Option Nat :=
  (digits? base (dropPlus s)).filter (· < bound)

/-- Two hexadecimal digits make a byte; `none` for an odd rest or a wrong digit. -/
def hexBytes? : List Char → Option (List UInt8)
  | [] => some []
  | [_] => none
  | a :: b :: rest => do
    let high ← digitValue? 16 a
    let low ← digitValue? 16 b
    return (high * 16 + low).toUInt8 :: (← hexBytes? rest)

end LanCensus.Text
