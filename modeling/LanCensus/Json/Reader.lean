/-
# LanCensus.Json.Reader -- reading JSON from the front of a text

A reader takes something off the front of a text and gives the rest, or says what kind of fault
it met first: the text ends too early, it is not JSON, or it is JSON of the wrong shape. Because a
reader stops at its first fault, a wrong shape early in a text hides broken JSON behind it.

A value that nobody asked for is skipped. Skipping checks that brackets, strings and numbers are
well formed, but not that escapes of surrogates come in pairs nor that a number fits anywhere, and
it goes as deep as the text does.
-/

import LanCensus.Json.Value
import LanCensus.Text.Number
import LanCensus.Text.Rounding

namespace LanCensus.Json

/-- **`Fault`** — why a text could not be read. -/
inductive Fault where
  /-- It is not JSON. -/
  | syn
  /-- It ends too early. -/
  | eof
  /-- It is JSON of the wrong shape, or a value is out of its range. -/
  | data
  deriving DecidableEq, Repr

/-- The name of a fault. -/
def Fault.name : Fault → String
  | .syn => "syntax"
  | .eof => "eof"
  | .data => "data"

/-- **`Reader α`** — reads an `α` off the front of a text. -/
abbrev Reader (α : Type) := List Char → Except Fault (α × List Char)

/-! ## Blanks, marks and words -/

/-- The blanks that may stand between the marks of JSON. -/
def isSpace (c : Char) : Bool := c == ' ' || c == '\n' || c == '\t' || c == '\r'

/-- The text from its first character on that is no blank. -/
def skipSpace (s : List Char) : List Char := s.dropWhile isSpace

/-- The fault of a text that goes on differently, or not at all. -/
def unexpected : List Char → Fault
  | [] => .eof
  | _ :: _ => .syn

/-- Takes the letters of a word. -/
def word : List Char → List Char → Except Fault (List Char)
  | [], s => .ok s
  | _ :: _, [] => .error .eof
  | c :: w, d :: s => if c = d then word w s else .error .syn

/-! ## Strings -/

/-- The UTF-8 length of a text. -/
def byteLength (s : List Char) : Nat := s.foldl (fun n c => n + c.utf8Size) 0

/-- The number of a four-digit escape. -/
def hexEscape (s : List Char) : Except Fault (Nat × List Char) :=
  match s with
  | a :: b :: c :: d :: rest =>
    match Text.digits? 16 [a, b, c, d] with
    | some n => .ok (n, rest)
    | none => .error .syn
  | _ => .error (if byteLength s < 4 then .eof else .syn)

/-- The character of a one-letter escape. -/
def shortEscape? : Char → Option Char
  | '"' => some '"'
  | '\\' => some '\\'
  | '/' => some '/'
  | 'b' => some '\x08'
  | 'f' => some '\x0c'
  | 'n' => some '\n'
  | 'r' => some '\r'
  | 't' => some '\t'
  | _ => none

/-- The character of a four-digit escape; the two halves of a surrogate pair make one. -/
def unicodeEscape (s : List Char) : Except Fault (Char × List Char) :=
  match hexEscape s with
  | .error e => .error e
  | .ok (n, rest) =>
    if 0xDC00 ≤ n ∧ n ≤ 0xDFFF then .error .syn
    else if n < 0xD800 ∨ 0xDBFF < n then .ok (Char.ofNat n, rest)
    else
      match rest with
      | '\\' :: 'u' :: more =>
        match hexEscape more with
        | .error e => .error e
        | .ok (m, after) =>
          if m < 0xDC00 ∨ 0xDFFF < m then .error .syn
          else .ok (Char.ofNat (0x10000 + (n - 0xD800) * 0x400 + (m - 0xDC00)), after)
      | ['\\'] => .error .eof
      | more => .error (unexpected more)

theorem hexEscape_length {s rest : List Char} {n : Nat} (h : hexEscape s = .ok (n, rest)) :
    rest.length < s.length := by
  unfold hexEscape at h
  split at h
  · split at h
    · simp only [Except.ok.injEq, Prod.mk.injEq] at h
      obtain ⟨_, rfl⟩ := h
      simp only [List.length_cons]
      omega
    · simp at h
  · simp at h

theorem unicodeEscape_length {s rest : List Char} {c : Char}
    (h : unicodeEscape s = .ok (c, rest)) : rest.length < s.length := by
  unfold unicodeEscape at h
  split at h
  · simp at h
  · rename_i n r hn
    have h1 := hexEscape_length hn
    split at h
    · simp at h
    · split at h
      · simp only [Except.ok.injEq, Prod.mk.injEq] at h
        obtain ⟨_, rfl⟩ := h
        exact h1
      · split at h
        · split at h
          · simp at h
          · rename_i m after hm
            have h2 := hexEscape_length hm
            split at h
            · simp at h
            · simp only [Except.ok.injEq, Prod.mk.injEq] at h
              obtain ⟨_, rfl⟩ := h
              simp only [List.length_cons] at h1
              omega
        · simp at h
        · simp at h

/-- The characters of a string up to its closing quote. -/
def stringBody : List Char → Except Fault (List Char × List Char)
  | [] => .error .eof
  | '"' :: rest => .ok ([], rest)
  | ['\\'] => .error .eof
  | '\\' :: 'u' :: rest =>
    match _h : unicodeEscape rest with
    | .error e => .error e
    | .ok (c, after) => (stringBody after).map fun (cs, r) => (c :: cs, r)
  | '\\' :: e :: rest =>
    match shortEscape? e with
    | some c => (stringBody rest).map fun (cs, r) => (c :: cs, r)
    | none => .error .syn
  | c :: rest =>
    if c.toNat < 0x20 then .error .syn
    else (stringBody rest).map fun (cs, r) => (c :: cs, r)
termination_by s => s.length
decreasing_by
  · have := unicodeEscape_length _h
    simp only [List.length_cons]
    omega
  · simp only [List.length_cons]
    omega
  · simp only [List.length_cons]
    omega

/-- Skips a string up to its closing quote. -/
def skipString : List Char → Except Fault (List Char)
  | [] => .error .eof
  | '"' :: rest => .ok rest
  | ['\\'] => .error .eof
  | '\\' :: 'u' :: rest =>
    match _h : hexEscape rest with
    | .error e => .error e
    | .ok (_, after) => skipString after
  | '\\' :: e :: rest => if (shortEscape? e).isSome then skipString rest else .error .syn
  | c :: rest => if c.toNat < 0x20 then .error .syn else skipString rest
termination_by s => s.length
decreasing_by
  · have := hexEscape_length _h
    simp only [List.length_cons]
    omega
  · simp only [List.length_cons]
    omega
  · simp only [List.length_cons]
    omega

/-! ## Numbers -/

/-- **`Number`** — a number as a reader sees it. -/
inductive Number where
  /-- A whole number below 2^64 without a sign. -/
  | natural (n : Nat)
  /-- Any other number. -/
  | other
  deriving DecidableEq, Repr

/-- Takes digits into a number as long as it stays exact; the digits left are given too. -/
def absorb (m : Nat) : List Char → Nat × List Char
  | [] => (m, [])
  | c :: rest =>
    let m' := m * 10 + (c.toNat - '0'.toNat)
    if m' < Text.wordBound then absorb m' rest else (m, c :: rest)

/-- The whole number of at most 53 significant bits that is nearest. -/
def toFloat (n : Nat) : Nat := (Text.Rounded.nearest n 1).units

/-- The least number that is rounded to no floating-point number. -/
def floatBound : Nat := Nat.pow 2 1024 - Nat.pow 2 970

/-- Whether `m` times a power of ten lies above every floating-point number, both rounded before
they are multiplied. -/
def overflows (m : Nat) (exponent : Int) : Bool :=
  if m = 0 ∨ exponent < 0 then false
  else if 308 < exponent then true
  else floatBound ≤ toFloat m * toFloat (Nat.pow 10 exponent.toNat)

/-- The greatest exponent that is told apart from larger ones. -/
abbrev exponentBound : Nat := 2147483648

/-- The exponent of a number whose digits so far make `m` times ten to the `base`; the number has
to lie in the range of floating-point numbers. -/
def readExponent (m : Nat) (base : Int) (s : List Char) : Except Fault (List Char) :=
  let (negative, s) :=
    match s with
    | '+' :: rest => (false, rest)
    | '-' :: rest => (true, rest)
    | rest => (false, rest)
  let ds := s.takeWhile Char.isDigit
  let rest := s.dropWhile Char.isDigit
  if ds.isEmpty then .error (unexpected rest)
  else
    let e := (Text.digits? 10 ds).getD 0
    if negative then
      if e < exponentBound && overflows m (base - e) then .error .syn else .ok rest
    else if exponentBound ≤ e then (if m = 0 then .ok rest else .error .syn)
    else if overflows m (base + e) then .error .syn
    else .ok rest

/-- What follows the whole part of a number: a fraction, an exponent, both or neither. -/
def readTail (m : Nat) (base : Int) : List Char → Except Fault (Bool × List Char)
  | '.' :: s =>
    let ds := s.takeWhile Char.isDigit
    let rest := s.dropWhile Char.isDigit
    if ds.isEmpty then .error (unexpected rest)
    else
      let (m', left) := absorb m ds
      let base' := base - ((ds.length - left.length : Nat) : Int)
      match rest with
      | c :: after =>
        if c = 'e' ∨ c = 'E' then (readExponent m' base' after).map (true, ·)
        else if overflows m' base' then .error .syn
        else .ok (true, rest)
      | [] => if overflows m' base' then .error .syn else .ok (true, rest)
  | c :: s =>
    if c = 'e' ∨ c = 'E' then (readExponent m base s).map (true, ·)
    else if overflows m base then .error .syn
    else .ok (false, c :: s)
  | [] => if overflows m base then .error .syn else .ok (false, [])

/-- A number without its sign. -/
def readMagnitude (positive : Bool) (s : List Char) : Except Fault (Number × List Char) :=
  let ds := s.takeWhile Char.isDigit
  let rest := s.dropWhile Char.isDigit
  match ds with
  | [] => .error (unexpected rest)
  | '0' :: _ :: _ => .error .syn
  | ds => do
    let (m, left) := absorb 0 ds
    let (broken, rest) ← readTail m left.length rest
    if positive && !broken && left.isEmpty then return (.natural m, rest)
    else return (.other, rest)

/-- A number at the front of a text. -/
def readNumber : Reader Number
  | '-' :: rest => readMagnitude false rest
  | s => readMagnitude true s

/-- Skips digits, of which there has to be one. -/
def skipDigits (s : List Char) : Except Fault (List Char) :=
  if (s.takeWhile Char.isDigit).isEmpty then .error .syn else .ok (s.dropWhile Char.isDigit)

/-- Skips an exponent, if there is one. -/
def skipExponent : List Char → Except Fault (List Char)
  | c :: '+' :: rest => if c = 'e' ∨ c = 'E' then skipDigits rest else .ok (c :: '+' :: rest)
  | c :: '-' :: rest => if c = 'e' ∨ c = 'E' then skipDigits rest else .ok (c :: '-' :: rest)
  | c :: rest => if c = 'e' ∨ c = 'E' then skipDigits rest else .ok (c :: rest)
  | [] => .ok []

/-- Skips a fraction, if there is one. -/
def skipFraction : List Char → Except Fault (List Char)
  | '.' :: rest => skipDigits rest
  | s => .ok s

/-- Skips a number without its sign. -/
def skipMagnitude (s : List Char) : Except Fault (List Char) := do
  match s.takeWhile Char.isDigit with
  | '0' :: _ :: _ => throw .syn
  | _ =>
    let s ← skipDigits s
    let s ← skipFraction s
    skipExponent s

/-! ## Skipping values -/

mutual

/-- Skips a value; `fuel` bounds the number of brackets, items and members. -/
def skipValueWith : Nat → List Char → Except Fault (List Char)
  | 0, _ => .error .eof
  | fuel + 1, s =>
    match skipSpace s with
    | [] => .error .eof
    | 'n' :: rest => word ['u', 'l', 'l'] rest
    | 't' :: rest => word ['r', 'u', 'e'] rest
    | 'f' :: rest => word ['a', 'l', 's', 'e'] rest
    | '"' :: rest => skipString rest
    | '[' :: rest =>
      match skipSpace rest with
      | ']' :: after => .ok after
      | _ => skipItemsWith fuel rest
    | '\x7b' :: rest =>
      match skipSpace rest with
      | '\x7d' :: after => .ok after
      | _ => skipMembersWith fuel rest
    | '-' :: rest => skipMagnitude rest
    | c :: rest => if c.isDigit then skipMagnitude (c :: rest) else .error .syn

/-- Skips the items of an array that has some, and its closing bracket. -/
def skipItemsWith : Nat → List Char → Except Fault (List Char)
  | 0, _ => .error .eof
  | fuel + 1, s => do
    let s ← skipValueWith fuel s
    match skipSpace s with
    | ',' :: rest => skipItemsWith fuel rest
    | ']' :: rest => .ok rest
    | rest => .error (unexpected rest)

/-- Skips the members of an object that has some, and its closing brace. -/
def skipMembersWith : Nat → List Char → Except Fault (List Char)
  | 0, _ => .error .eof
  | fuel + 1, s =>
    match skipSpace s with
    | '"' :: rest => do
      let s ← skipString rest
      match skipSpace s with
      | ':' :: rest =>
        let s ← skipValueWith fuel rest
        match skipSpace s with
        | ',' :: rest => skipMembersWith fuel rest
        | '\x7d' :: rest => .ok rest
        | rest => .error (unexpected rest)
      | rest => .error (unexpected rest)
    | rest => .error (unexpected rest)

end

/-- **`skipValue s`** — what follows the value at the front of a text. -/
def skipValue (s : List Char) : Except Fault (List Char) := skipValueWith (2 * s.length + 1) s

/-! ## Values of a wanted shape -/

/-- The fault of a value of another shape than the wanted one. The value is read as far as it
takes to see what it is. -/
def wrongShape : List Char → Fault
  | [] => .eof
  | 'n' :: rest => faultOf (word ['u', 'l', 'l'] rest)
  | 't' :: rest => faultOf (word ['r', 'u', 'e'] rest)
  | 'f' :: rest => faultOf (word ['a', 'l', 's', 'e'] rest)
  | '"' :: rest => faultOf (stringBody rest)
  | '[' :: _ => .data
  | '\x7b' :: _ => .data
  | '-' :: rest => faultOf (readMagnitude false rest)
  | c :: rest => if c.isDigit then faultOf (readMagnitude true (c :: rest)) else .syn
where
  /-- The fault of a reading; one that went well found the wrong shape. -/
  faultOf {α : Type} : Except Fault α → Fault
    | .error e => e
    | .ok _ => .data

/-- A string. -/
def readString : Reader String := fun s =>
  match skipSpace s with
  | '"' :: rest => (stringBody rest).map fun (cs, r) => (String.ofList cs, r)
  | s => .error (wrongShape s)

/-- A truth value. -/
def readBool : Reader Bool := fun s =>
  match skipSpace s with
  | 't' :: rest => (word ['r', 'u', 'e'] rest).map (true, ·)
  | 'f' :: rest => (word ['a', 'l', 's', 'e'] rest).map (false, ·)
  | s => .error (wrongShape s)

/-- A whole number below `bound`, which is at most 2^64. -/
def readNat (bound : Nat) : Reader Nat := fun s =>
  let s := skipSpace s
  if s.head?.any fun c => c = '-' ∨ c.isDigit then
    match readNumber s with
    | .ok (.natural n, rest) => if n < bound then .ok (n, rest) else .error .data
    | .ok (.other, _) => .error .data
    | .error e => .error e
  else .error (wrongShape s)

/-- A string that `f` gives a meaning to. -/
def readMeaning {α : Type} (f : String → Option α) : Reader α := fun s => do
  let (text, rest) ← readString s
  match f text with
  | some x => return (x, rest)
  | none => throw .data

/-- **`readWhole r s`** — reads a text with nothing but blanks after it. -/
def readWhole {α : Type} (r : Reader α) (s : String) : Except Fault α := do
  let (x, rest) ← r s.toList
  if (skipSpace rest).isEmpty then return x else throw .syn

end LanCensus.Json
