/-
# LanCensus.Json.Value -- JSON values and how they are written

The values that the census writes into its files and sends to its clients. There are no fractions
among them. A value has two written forms: the compact one without blanks for messages, and the
indented one with a member or an item on each line for files.

Texts are escaped as little as JSON allows: quotes, backslashes and control characters.
-/

import LanCensus.Text.Quoted

namespace LanCensus

/-- **`Json`** — a JSON value. -/
inductive Json where
  | null
  | bool (b : Bool)
  | number (n : Int)
  | string (s : String)
  | array (items : List Json)
  | object (members : List (String × Json))
  deriving Inhabited

namespace Json

/-! ## Texts -/

/-- The escape of a control character that has no short one. -/
def controlEscape (c : Char) : List Char :=
  ['\\', 'u', '0', '0', Text.hexDigit (c.toNat / 16), Text.hexDigit c.toNat]

/-- The written form of one character of a text. -/
def escapeChar (c : Char) : List Char :=
  if c = '"' then ['\\', '"']
  else if c = '\\' then ['\\', '\\']
  else if c = '\n' then ['\\', 'n']
  else if c = '\r' then ['\\', 'r']
  else if c = '\t' then ['\\', 't']
  else if c = '\x08' then ['\\', 'b']
  else if c = '\x0c' then ['\\', 'f']
  else if c.toNat < 0x20 then controlEscape c
  else [c]

/-- A text in quotes. -/
def stringText (s : List Char) : List Char := '"' :: (s.flatMap escapeChar ++ ['"'])

/-- A whole number. -/
def numberText (n : Int) : List Char :=
  if n < 0 then '-' :: Nat.toDigits 10 n.natAbs else Nat.toDigits 10 n.natAbs

/-! ## The compact form -/

mutual

/-- **`compact v`** — the value without blanks. -/
def compact : Json → List Char
  | .null => ['n', 'u', 'l', 'l']
  | .bool true => ['t', 'r', 'u', 'e']
  | .bool false => ['f', 'a', 'l', 's', 'e']
  | .number n => numberText n
  | .string s => stringText s.toList
  | .array items => '[' :: compactItems items
  | .object members => '\x7b' :: compactMembers members

/-- The items of an array and its closing bracket. -/
def compactItems : List Json → List Char
  | [] => [']']
  | [v] => compact v ++ [']']
  | v :: rest => compact v ++ ',' :: compactItems rest

/-- The members of an object and its closing brace. -/
def compactMembers : List (String × Json) → List Char
  | [] => ['\x7d']
  | [(k, v)] => stringText k.toList ++ ':' :: (compact v ++ ['\x7d'])
  | (k, v) :: rest => stringText k.toList ++ ':' :: (compact v ++ ',' :: compactMembers rest)

end

/-! ## The indented form -/

/-- A new line that begins with two blanks for each level of nesting. -/
def newLine (level : Nat) : List Char := '\n' :: List.replicate (2 * level) ' '

mutual

/-- The value at a level of nesting; an empty array or object stays on one line. -/
def indented (level : Nat) : Json → List Char
  | .null => ['n', 'u', 'l', 'l']
  | .bool true => ['t', 'r', 'u', 'e']
  | .bool false => ['f', 'a', 'l', 's', 'e']
  | .number n => numberText n
  | .string s => stringText s.toList
  | .array [] => ['[', ']']
  | .array (v :: rest) => '[' :: indentedItems level (v :: rest)
  | .object [] => ['\x7b', '\x7d']
  | .object (m :: rest) => '\x7b' :: indentedMembers level (m :: rest)

/-- The items of an array, each on its line, and the closing bracket. -/
def indentedItems (level : Nat) : List Json → List Char
  | [] => newLine level ++ [']']
  | [v] => newLine (level + 1) ++ indented (level + 1) v ++ newLine level ++ [']']
  | v :: rest => newLine (level + 1) ++ indented (level + 1) v ++ ',' :: indentedItems level rest

/-- The members of an object, each on its line, and the closing brace. -/
def indentedMembers (level : Nat) : List (String × Json) → List Char
  | [] => newLine level ++ ['\x7d']
  | [(k, v)] =>
    newLine (level + 1) ++ stringText k.toList ++ ':' :: ' ' :: indented (level + 1) v
      ++ newLine level ++ ['\x7d']
  | (k, v) :: rest =>
    newLine (level + 1) ++ stringText k.toList ++ ':' :: ' ' :: indented (level + 1) v
      ++ ',' :: indentedMembers level rest

end

/-- **`pretty v`** — the indented form of a value. -/
def pretty (v : Json) : List Char := indented 0 v

/-! ## Building values -/

/-- A value or null. -/
def ofOption {α : Type} (f : α → Json) : Option α → Json
  | some x => f x
  | none => .null

/-- A count. -/
def ofNat (n : Nat) : Json := .number n

end Json

end LanCensus
