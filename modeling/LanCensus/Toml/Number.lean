/-
# LanCensus.Toml.Number -- numbers and moments in a configuration

Whole numbers have 64 bits and a sign. They are decimal, without a zero in front, or hexadecimal,
octal or binary behind a mark. Underscores may stand between digits. A number with a fraction or
an exponent may be as small as one likes, but not too great to be reckoned with.
-/

import LanCensus.Time.Calendar
import LanCensus.Toml.Lexeme

namespace LanCensus.Toml

/-! ## Digits -/

/-- The digits that follow one, an underscore before any of them. -/
def moreDigits (base : Nat) : Reader (List Char)
  | [] => some ([], [])
  | '_' :: c :: rest =>
    if (Text.digitValue? base c).isSome then
      (moreDigits base rest).map fun (ds, rest) => (c :: ds, rest)
    else none
  | c :: rest =>
    if (Text.digitValue? base c).isSome then
      (moreDigits base rest).map fun (ds, rest) => (c :: ds, rest)
    else if c = '_' then none
    else some ([], c :: rest)

/-- At least one digit. -/
def readDigits (base : Nat) (s : List Char) : Option (List Char × List Char) :=
  match s with
  | c :: rest =>
    if (Text.digitValue? base c).isSome then
      (moreDigits base rest).map fun (ds, rest) => (c :: ds, rest)
    else none
  | [] => none

/-- Whether a number is negative, and what follows its sign. -/
def readSign : List Char → Bool × List Char
  | '-' :: rest => (true, rest)
  | '+' :: rest => (false, rest)
  | s => (false, s)

/-- Decimal digits without a zero in front of others. -/
def readDecimal (s : List Char) : Option (List Char × List Char) :=
  match s with
  | '0' :: rest => some (['0'], rest)
  | s => readDigits 10 s

/-! ## Whole numbers -/

/-- A number that has 64 bits and a sign. -/
def whole? (negative : Bool) (base : Nat) (digits : List Char) : Option Value := do
  let n ← Text.digits? base digits
  if negative then if n ≤ Text.signedBound then some (.whole (-(n : Int))) else none
  else if n < Text.signedBound then some (.whole n) else none

/-- A whole number. -/
def readWhole (s : List Char) : Option (Value × List Char) :=
  let marked (base : Nat) (s : List Char) : Option (Value × List Char) := do
    let (ds, rest) ← readDigits base s
    return (← whole? false base ds, rest)
  match s with
  | '0' :: 'x' :: rest => marked 16 rest
  | '0' :: 'o' :: rest => marked 8 rest
  | '0' :: 'b' :: rest => marked 2 rest
  | s => do
    let (negative, s) := readSign s
    let (ds, rest) ← readDecimal s
    return (← whole? negative 10 ds, rest)

/-! ## Fractions -/

/-- The least whole number that is too great: halfway from the greatest one with 53 significant
bits and an exponent in range to the next power of two. -/
def tooGreat : Nat := Nat.pow 2 1024 - Nat.pow 2 970

/-- Whether `n` times ten to the `e` can be reckoned with. A number with more than 310 digits in front of the
point is too great, and one with fewer than 300 is not. -/
def isReckonable (n : Nat) (e : Int) : Bool :=
  let size := (Nat.toDigits 10 n).length + e
  n = 0 || size < 300
    || (size ≤ 310
      && if 0 ≤ e then n * Nat.pow 10 e.toNat < tooGreat else n < tooGreat * Nat.pow 10 (-e).toNat)

/-- An exponent. -/
def readExponent (s : List Char) : Option (Int × List Char) :=
  match s with
  | c :: rest =>
    if c = 'e' || c = 'E' then do
      let (negative, rest) := readSign rest
      let (ds, rest) ← readDigits 10 rest
      let n ← Text.digits? 10 ds
      return (if negative then -(n : Int) else n, rest)
    else none
  | [] => none

/-- A fraction, an exponent or both, after the whole part. -/
def readScale (s : List Char) : Option ((List Char × Int) × List Char) :=
  match s with
  | '.' :: rest => do
    let (ds, rest) ← readDigits 10 rest
    match rest with
    | 'e' :: _ | 'E' :: _ =>
      let (e, rest) ← readExponent rest
      return ((ds, e), rest)
    | _ => return ((ds, 0), rest)
  | s => (readExponent s).map fun (e, rest) => (([], e), rest)

/-- A number with a fraction or an exponent. -/
def readScaled (s : List Char) : Option (Value × List Char) := do
  let (negative, s) := readSign s
  let (ds, rest) ← readDecimal s
  let ((fs, e), rest) ← readScale rest
  let n ← Text.digits? 10 (ds ++ fs)
  if negative || isReckonable n (e - fs.length) then some (.fraction, rest) else none

/-- A number that is no number, or without a limit. -/
def readBoundless (s : List Char) : Option (Value × List Char) :=
  match (readSign s).2 with
  | 'i' :: 'n' :: 'f' :: rest | 'n' :: 'a' :: 'n' :: rest => some (.fraction, rest)
  | _ => none

/-! ## Moments -/

/-- A number of so many digits. -/
def readFixed (width : Nat) (s : List Char) : Option (Nat × List Char) :=
  let ds := s.take width
  if ds.length = width && ds.all Char.isDigit then (Text.digits? 10 ds).map (·, s.drop width)
  else none

/-- A number of two digits within bounds. -/
def readPair (least most : Nat) (s : List Char) : Option (Nat × List Char) :=
  (readFixed 2 s).filter fun (n, _) => least ≤ n && n ≤ most

/-- A mark. -/
def readMark (c : Char) : List Char → Option (List Char)
  | d :: rest => if c = d then some rest else none
  | [] => none

/-- What follows a date that the calendar has. -/
def skipDate (s : List Char) : Option (List Char) := do
  let (year, s) ← readFixed 4 s
  let (month, s) ← readPair 1 12 (← readMark '-' s)
  let (day, s) ← readPair 1 31 (← readMark '-' s)
  if day ≤ Time.daysInMonth year month then some s else none

/-- What follows a time of day, which may have a fraction. -/
def skipTime (s : List Char) : Option (List Char) := do
  let (_, s) ← readPair 0 23 s
  let (_, s) ← readPair 0 59 (← readMark ':' s)
  let (_, s) ← readPair 0 60 (← readMark ':' s)
  match s with
  | '.' :: c :: rest => if c.isDigit then some (rest.dropWhile Char.isDigit) else some s
  | s => some s

/-- What follows the offset of a time of day. -/
def skipOffset (s : List Char) : Option (List Char) :=
  match s with
  | 'Z' :: rest | 'z' :: rest => some rest
  | '+' :: rest | '-' :: rest => do
    let (_, s) ← readPair 0 23 rest
    let (_, s) ← readPair 0 59 (← readMark ':' s)
    return s
  | _ => none

/-- What follows the time after a date. -/
def skipTimeAfterDate (s : List Char) : Option (List Char) :=
  match s with
  | c :: rest =>
    if c = 'T' || c = 't' || c = ' ' then do
      let s ← skipTime rest
      return (skipOffset s).getD s
    else none
  | [] => none

/-- A date, a time of day or both. -/
def readMoment (s : List Char) : Option (Value × List Char) :=
  match skipDate s with
  | some s => some (.moment, (skipTimeAfterDate s).getD s)
  | none => (skipTime s).map (.moment, ·)

/-! ## All of them -/

/-- **`readNumber s`** — a moment or a number. -/
def readNumber (s : List Char) : Option (Value × List Char) :=
  readMoment s <|> readScaled s <|> readBoundless s <|> readWhole s

end LanCensus.Toml
