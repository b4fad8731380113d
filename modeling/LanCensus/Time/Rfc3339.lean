/-
# LanCensus.Time.Rfc3339 -- instants as texts

Instants are written as RFC 3339 texts in UTC, with the fewest of no, three, six or nine digits
of a fraction that lose nothing. A year outside 0 to 9999 has a sign.

Reading is more lenient than writing: a number may have fewer digits than its width and blanks in
front, a blank may stand where a T does, a fraction may be longer than nine digits (the others
are dropped), the offset may be Z, UTC or a signed number of hours and minutes, and blanks may
follow. The leap second 60 is read in any minute.
-/

import LanCensus.Text.Blank
import LanCensus.Text.Number
import LanCensus.Time.Instant
import LanCensus.Time.Calendar

namespace LanCensus.Time

open LanCensus.Text (isBlank trimStart)

/-! ## Writing -/

/-- At least `width` digits, zeros in front. -/
def padded (width n : Nat) : List Char :=
  let ds := Nat.toDigits 10 n
  List.replicate (width - ds.length) '0' ++ ds

/-- A year: four digits, or a sign and at least four digits outside 0 to 9999. -/
def yearText (y : Int) : List Char :=
  if 0 ≤ y ∧ y ≤ 9999 then padded 4 y.toNat
  else if y < 0 then '-' :: padded 4 y.natAbs
  else '+' :: padded 4 y.natAbs

/-- A fraction of a second in the fewest groups of three digits. -/
def fractionText (nanos : Nat) : List Char :=
  if nanos = 0 then []
  else if nanos % 1000000 = 0 then '.' :: padded 3 (nanos / 1000000)
  else if nanos % 1000 = 0 then '.' :: padded 6 (nanos / 1000)
  else '.' :: padded 9 nanos

/-- Seconds of a day, in days of the calendar. -/
abbrev secondsPerDay : Nat := 86400

/-- The date, the hour and the minute of an instant. -/
def minuteText (t : Instant) : List Char :=
  let date := Date.ofDays (t.seconds / secondsPerDay)
  let second := (t.seconds % secondsPerDay).toNat
  yearText date.year ++ ['-'] ++ padded 2 date.month ++ ['-'] ++ padded 2 date.day ++ ['T']
    ++ padded 2 (second / 3600) ++ [':'] ++ padded 2 (second / 60 % 60) ++ [':']

/-- The second of the minute; a leap second counts as one more. -/
def secondOfMinute (t : Instant) : Nat :=
  (t.seconds % 60).toNat + t.nanos / nanosPerSecond

/-- **`format t`** — the instant with its fraction. -/
def format (t : Instant) : List Char :=
  minuteText t ++ padded 2 (secondOfMinute t) ++ fractionText (t.nanos % nanosPerSecond) ++ ['Z']

/-- The instant to the second, the fraction dropped. -/
def formatSeconds (t : Instant) : List Char :=
  minuteText t ++ padded 2 (secondOfMinute t) ++ ['Z']

/-! ## Reading -/

/-- What is left of the text, and what was read from its front. -/
abbrev Reader (α : Type) := List Char → Option (α × List Char)

/-- The digits at the front of a text, `width` of them at most. -/
def takeDigits : Nat → List Char → List Char × List Char
  | 0, s => ([], s)
  | _ + 1, [] => ([], [])
  | n + 1, c :: rest =>
    if c.isDigit then
      let (ds, after) := takeDigits n rest
      (c :: ds, after)
    else ([], c :: rest)

/-- A number of one to `width` digits. -/
def number (width : Nat) : Reader Nat := fun s =>
  let (ds, rest) := takeDigits width s
  (Text.digits? 10 ds).map (·, rest)

/-- A number after blanks. -/
def field (width : Nat) : Reader Nat := fun s => number width (trimStart s)

/-- A mark that may have blanks in front. -/
def mark (c : Char) : List Char → Option (List Char) := fun s =>
  match trimStart s with
  | d :: rest => if c = d then some rest else none
  | [] => none

/-- A year: four digits at most, or a sign and any number of digits. -/
def year : Reader Int := fun s =>
  match trimStart s with
  | '-' :: rest => do
    let (n, after) ← number rest.length rest
    if n < Text.signedBound then some (-(n : Int), after) else none
  | '+' :: rest => do
    let (n, after) ← number rest.length rest
    if n < Text.signedBound then some ((n : Int), after) else none
  | rest => (number 4 rest).map fun (n, after) => ((n : Int), after)

/-- A fraction: nine digits count, more are dropped. Without a point there is none. -/
def fraction : Reader Nat
  | '.' :: rest => do
    let (ds, after) := takeDigits 9 rest
    let n ← Text.digits? 10 ds
    return (n * Nat.pow 10 (9 - ds.length), after.dropWhile Char.isDigit)
  | s => some (0, s)

/-- Two digits, the first of them below `bound`. -/
def twoDigits (bound : Char) : Reader Nat
  | a :: b :: rest =>
    if a.isDigit && b.isDigit && a < bound then
      some ((a.toNat - '0'.toNat) * 10 + (b.toNat - '0'.toNat), rest)
    else none
  | _ => none

/-- The hours and minutes of an offset, in seconds. Blanks and colons may stand between them. -/
def offsetSize : Reader Int := fun s => do
  let (hours, rest) ← twoDigits ':' s
  let (minutes, after) ← twoDigits '6' (rest.dropWhile fun c => c = ':' || isBlank c)
  return ((hours * 3600 + minutes * 60 : Nat), after)

/-- The offset from UTC in seconds. -/
def offset : Reader Int
  | 'Z' :: rest => some (0, rest)
  | 'z' :: rest => some (0, rest)
  | '+' :: rest => offsetSize rest
  | c :: rest =>
    if c = '-' ∨ c = Char.ofNat 0x2212 then
      (offsetSize rest).map fun (n, after) => (-n, after)
    else if Text.asciiLower (c :: rest.take 2) = ['u', 't', 'c'] then some (0, rest.drop 2)
    else none
  | [] => none

/-- A day has less than 24 hours of 60 minutes; a leap second is the second 60. -/
def isTimeOfDay (hour minute second : Nat) : Bool := hour ≤ 23 && minute ≤ 59 && second ≤ 60

/-- The instant of a date and a time of day at an offset from UTC, if both exist and the instant
can be written down. -/
def assemble (date : Date) (hour minute second nanos : Nat) (off : Int) : Option Instant :=
  let dayStart := date.toDays * secondsPerDay
  let extra := if second = 60 then nanosPerSecond else 0
  let wall : Instant :=
    ⟨dayStart + (hour * 3600 + minute * 60 + min second 59 : Nat), nanos + extra⟩
  let utc : Instant := ⟨wall.seconds - off, wall.nanos⟩
  if date.isValid && isTimeOfDay hour minute second && wall.inRange && utc.inRange
      && off.natAbs < secondsPerDay then some utc
  else none

/-- **`parse? s`** — the instant that a text names. -/
def parse? (s : List Char) : Option Instant := do
  let (y, s) ← year s
  let (month, s) ← field 2 (← mark '-' s)
  let (day, s) ← field 2 (← mark '-' s)
  let s ← match s with
    | c :: rest => if c = 't' ∨ c = 'T' ∨ c = ' ' then some rest else none
    | [] => none
  let (hour, s) ← field 2 s
  let (minute, s) ← field 2 (← mark ':' s)
  let (second, s) ← field 2 (← mark ':' s)
  let (nanos, s) ← fraction s
  let (off, s) ← offset (trimStart s)
  if Text.allBlank s then assemble ⟨y, month, day⟩ hour minute second nanos off else none

end LanCensus.Time

namespace LanCensus.Instant

/-- The RFC 3339 text of an instant. -/
def text (t : Instant) : String := String.ofList (Time.format t)

/-- The RFC 3339 text of an instant to the second. -/
def textToSecond (t : Instant) : String := String.ofList (Time.formatSeconds t)

/-- The instant that a text names. -/
def ofString? (s : String) : Option Instant := Time.parse? s.toList

end LanCensus.Instant
