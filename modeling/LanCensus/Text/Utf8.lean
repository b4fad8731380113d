/-
# LanCensus.Text.Utf8 -- bytes and characters

Texts arrive as bytes. They are read in two ways: strictly, where one wrong byte spoils the whole
text, and leniently, where each longest wrong beginning of a character becomes one U+FFFD. Both
readings look at the front of the byte text through `next`, so they agree on what a character is.
-/

namespace LanCensus.Text.Utf8

/-! ## Writing -/

/-- The bytes of one character. -/
def encodeChar (c : Char) : List UInt8 :=
  let n := c.toNat
  if n < 0x80 then [n.toUInt8]
  else if n < 0x800 then [(0xC0 + n / 64).toUInt8, (0x80 + n % 64).toUInt8]
  else if n < 0x10000 then
    [(0xE0 + n / 4096).toUInt8, (0x80 + n / 64 % 64).toUInt8, (0x80 + n % 64).toUInt8]
  else
    [(0xF0 + n / 262144).toUInt8, (0x80 + n / 4096 % 64).toUInt8,
      (0x80 + n / 64 % 64).toUInt8, (0x80 + n % 64).toUInt8]

/-- The bytes of a text. -/
def encode (s : List Char) : List UInt8 := s.flatMap encodeChar

/-! ## Reading the front -/

/-- **`Lead`** — what the first byte of a character says about the others. -/
structure Lead where
  /-- How many bytes follow. -/
  tails : Nat
  /-- Least value of the second byte. -/
  low : Nat
  /-- Greatest value of the second byte. -/
  high : Nat
  /-- The bits of the character that the first byte carries. -/
  bits : Nat

/-- Reads a first byte. The bounds on the second byte keep out long forms, surrogates and numbers
above U+10FFFF. -/
def lead? (b : Nat) : Option Lead :=
  if b < 0x80 then some ⟨0, 0, 0, b⟩
  else if b < 0xC2 then none
  else if b < 0xE0 then some ⟨1, 0x80, 0xBF, b - 0xC0⟩
  else if b = 0xE0 then some ⟨2, 0xA0, 0xBF, 0⟩
  else if b = 0xED then some ⟨2, 0x80, 0x9F, b - 0xE0⟩
  else if b < 0xF0 then some ⟨2, 0x80, 0xBF, b - 0xE0⟩
  else if b = 0xF0 then some ⟨3, 0x90, 0xBF, 0⟩
  else if b < 0xF4 then some ⟨3, 0x80, 0xBF, b - 0xF0⟩
  else if b = 0xF4 then some ⟨3, 0x80, 0x8F, b - 0xF0⟩
  else none

/-- Takes the following bytes of a character and stops before the first that does not fit. -/
def takeTails : Nat → Nat → Nat → Nat → List UInt8 → Option Nat × List UInt8
  | 0, _, _, bits, bytes => (some bits, bytes)
  | _ + 1, _, _, _, [] => (none, [])
  | n + 1, low, high, bits, b :: bytes =>
    if low ≤ b.toNat ∧ b.toNat ≤ high then
      takeTails n 0x80 0xBF (bits * 64 + (b.toNat - 0x80)) bytes
    else (none, b :: bytes)

/-- The character at the front of a non-empty byte text, or none for a wrong one, and the bytes
after it. -/
def next (b : UInt8) (bytes : List UInt8) : Option Char × List UInt8 :=
  match lead? b.toNat with
  | none => (none, bytes)
  | some l =>
    let (n, rest) := takeTails l.tails l.low l.high l.bits bytes
    (n.map Char.ofNat, rest)

theorem takeTails_length (n low high bits : Nat) (bytes : List UInt8) :
    (takeTails n low high bits bytes).2.length ≤ bytes.length := by
  induction n generalizing low high bits bytes with
  | zero => simp [takeTails]
  | succ n ih =>
    cases bytes with
    | nil => simp [takeTails]
    | cons b bytes =>
      unfold takeTails
      split
      · exact Nat.le_succ_of_le (ih _ _ _ _)
      · simp

theorem next_length (b : UInt8) (bytes : List UInt8) :
    (next b bytes).2.length ≤ bytes.length := by
  unfold next
  split
  · simp
  · exact takeTails_length _ _ _ _ _

/-! ## Reading a whole text -/

/-- The characters of a byte text, none for each longest wrong beginning of a character. -/
def scan : List UInt8 → List (Option Char)
  | [] => []
  | b :: bytes => (next b bytes).1 :: scan (next b bytes).2
termination_by bytes => bytes.length
decreasing_by
  have := next_length b bytes
  simp only [List.length_cons]
  omega

/-- **`decode? bytes`** — the text, if every byte belongs to a character. -/
def decode? (bytes : List UInt8) : Option (List Char) := (scan bytes).mapM id

/-- **`decodeLossy bytes`** — the text, with U+FFFD in the place of what is wrong. -/
def decodeLossy (bytes : List UInt8) : List Char :=
  (scan bytes).map (·.getD (Char.ofNat 0xFFFD))

/-- The strict reading as a string. -/
def string? (bytes : List UInt8) : Option String := (decode? bytes).map String.ofList

/-- The bytes of a string. -/
def ofString (s : String) : List UInt8 := encode s.toList

end LanCensus.Text.Utf8
