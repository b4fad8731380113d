/-
# LanCensus.Text.Rounding -- fractions rounded to 53 bits

Measured times are fractions. They are reckoned with 53 significant bits and exponents down to
-1074, the nearest such number standing for one that needs more bits, and the even one of two that
are equally near. Numbers are counted in units of the least positive one, so that they are natural
numbers and only rounding loses anything.
-/

import LanCensus.Text.Blank
import LanCensus.Text.Number

namespace LanCensus.Text

/-- **`Rounded`** — a number that is not negative and has at most 53 significant bits. -/
structure Rounded where
  /-- How many times the least positive number it is. -/
  units : Nat
  deriving DecidableEq, Repr

namespace Rounded

/-- How many units make one. -/
def one : Nat := Nat.pow 2 1074

/-- The nearest whole number to a quotient, the even one of two. -/
def nearestWhole (n d : Nat) : Nat :=
  let q := n / d
  let r := n % d
  if 2 * r < d then q
  else if d < 2 * r then q + 1
  else q + q % 2

/-- The distance of neighbours around a number of units. -/
def spacing (units : Nat) : Nat := if units < Nat.pow 2 53 then 1 else Nat.pow 2 (units.log2 - 52)

/-- The number nearest to a quotient of units. -/
def nearest (n d : Nat) : Rounded :=
  let step := spacing (n / d)
  ⟨nearestWhole n (d * step) * step⟩

/-- The number nearest to a quotient. -/
def ofQuotient (n d : Nat) : Rounded := nearest (n * one) d

/-- The number nearest to a natural number. -/
def ofNat (n : Nat) : Rounded := ofQuotient n 1

/-- The number nearest to a multiple. -/
def times (x : Rounded) (n : Nat) : Rounded := nearest (x.units * n) 1

/-- The number nearest to a sum. -/
def add (x y : Rounded) : Rounded := nearest (x.units + y.units) 1

/-- The nearest natural number, the greater of two. -/
def roundUp (x : Rounded) : Nat := (2 * x.units + one) / (2 * one)

/-- The least natural number that is not below. -/
def ceiling (x : Rounded) : Nat := (x.units + (one - 1)) / one

end Rounded

/-- Characters of a decimal fraction. -/
def isDecimalChar (c : Char) : Bool := c.isDigit || c == '.'

/-- **`decimal? s`** — the fraction that digits with at most one point among them spell. -/
def decimal? (s : List Char) : Option Rounded :=
  match splitAt '.' s with
  | [whole] => do return .ofNat (← digits? 10 whole)
  | [whole, fraction] =>
    if whole.isEmpty && fraction.isEmpty then none
    else do
      return .ofQuotient (← digits? 10 (whole ++ fraction)) (Nat.pow 10 fraction.length)
  | _ => none

end LanCensus.Text
