/-
# LanCensus.Toml.Lexeme -- blanks, comments and texts in a configuration

The text of a configuration has line feeds only; a carriage return that belongs to a line break
has been taken away, and any other one is out of place. Texts stand in quotes. In double quotes a
backslash begins an escape; single quotes know no escapes. Three quotes of either kind enclose a
text that may have several lines, and a line break right after them does not belong to it.
-/

import LanCensus.Text.Number
import LanCensus.Toml.Value

namespace LanCensus.Toml

/-! ## Between values -/

/-- A blank within a line. -/
def isSpace (c : Char) : Bool := c = ' ' || c = '\t'

/-- A character that may stand in a comment or a text. -/
def isVisible (c : Char) : Bool := c = '\t' || (0x20 ≤ c.toNat && c.toNat ≠ 0x7F)

/-- The text after blanks. -/
def skipSpaces (s : List Char) : List Char := s.dropWhile isSpace

/-- The text after a comment, which ends before a line break. -/
def skipComment : List Char → List Char
  | '#' :: rest => rest.dropWhile isVisible
  | s => s

/-- The text after the end of a line, before which only a comment may stand. -/
def endLine (s : List Char) : Option (List Char) :=
  match skipComment (skipSpaces s) with
  | [] => some []
  | '\n' :: rest => some rest
  | _ => none

/-- The text after blanks, comments and line breaks; a comment has to end with its line. -/
def skipLines : Nat → List Char → Option (List Char)
  | 0, _ => none
  | fuel + 1, s =>
    match skipSpaces s with
    | '\n' :: rest => skipLines fuel rest
    | '#' :: rest =>
      match rest.dropWhile isVisible with
      | '\n' :: rest => skipLines fuel rest
      | _ => none
    | s => some s

/-! ## Escapes -/

/-- The character with a number in hexadecimal digits. -/
def numbered? (digits : List Char) : Option Char := do
  let n ← Text.digits? 16 digits
  if n < 0xD800 || (0xDFFF < n && n < 0x110000) then some (Char.ofNat n) else none

/-- The character that an escape of one letter means. -/
def shortEscape? : Char → Option Char
  | 'b' => some '\x08'
  | 't' => some '\t'
  | 'n' => some '\n'
  | 'f' => some '\x0c'
  | 'r' => some '\r'
  | '"' => some '"'
  | '\\' => some '\\'
  | _ => none

/-- The character that an escape means whose backslash has been read. -/
def readEscape : Reader Char
  | 'u' :: rest =>
    if rest.length < 4 then none else (numbered? (rest.take 4)).map (·, rest.drop 4)
  | 'U' :: rest =>
    if rest.length < 8 then none else (numbered? (rest.take 8)).map (·, rest.drop 8)
  | c :: rest => (shortEscape? c).map (·, rest)
  | [] => none

/-- The text after a line break that a backslash takes away, together with all blanks that
follow; the backslash has been read. -/
def skipBreak (s : List Char) : Option (List Char) :=
  match skipSpaces s with
  | '\n' :: rest => some (rest.dropWhile fun c => isSpace c || c = '\n')
  | _ => none

/-! ## Texts -/

/-- The rest of a text in double quotes. -/
def readQuoted : Nat → Reader (List Char)
  | 0, _ => none
  | _ + 1, [] => none
  | fuel + 1, c :: rest =>
    if c = '"' then some ([], rest)
    else if c = '\\' then do
      let (x, rest) ← readEscape rest
      let (s, rest) ← readQuoted fuel rest
      return (x :: s, rest)
    else if isVisible c then (readQuoted fuel rest).map fun (s, rest) => (c :: s, rest)
    else none

/-- The rest of a text in single quotes. -/
def readPlain (s : List Char) : Option (List Char × List Char) :=
  match s.dropWhile fun c => isVisible c && c ≠ '\'' with
  | '\'' :: rest => some (s.takeWhile fun c => isVisible c && c ≠ '\'', rest)
  | _ => none

/-- The quotes that belong to a text of several lines at a place where at least three stand; at
most two do. -/
def quotesWithin (mark : Char) (s : List Char) : Nat := min 2 ((s.takeWhile (· = mark)).length - 3)

/-- The rest of a text of several lines, whose marks are double or single quotes. -/
def readLong (mark : Char) : Nat → Reader (List Char)
  | 0, _ => none
  | _ + 1, [] => none
  | fuel + 1, c :: rest =>
    if [mark, mark, mark].isPrefixOf (c :: rest) then
      let inside := quotesWithin mark (c :: rest)
      some (List.replicate inside mark, (c :: rest).drop (inside + 3))
    else if mark = '"' && c = '\\' then
      match skipBreak rest with
      | some rest => readLong mark fuel rest
      | none => do
        let (x, rest) ← readEscape rest
        let (s, rest) ← readLong mark fuel rest
        return (x :: s, rest)
    else if isVisible c || c = '\n' then
      (readLong mark fuel rest).map fun (s, rest) => (c :: s, rest)
    else none

/-- The text without a line break at its beginning. -/
def dropBreak : List Char → List Char
  | '\n' :: rest => rest
  | s => s

/-- **`readText s`** — a text in quotes of any kind. -/
def readText (s : List Char) : Option (List Char × List Char) :=
  match s with
  | '"' :: '"' :: '"' :: rest => readLong '"' (rest.length + 1) (dropBreak rest)
  | '\'' :: '\'' :: '\'' :: rest => readLong '\'' (rest.length + 1) (dropBreak rest)
  | '"' :: rest => readQuoted (rest.length + 1) rest
  | '\'' :: rest => readPlain rest
  | _ => none

/-! ## Names -/

/-- A character of a name without quotes. -/
def isBareChar (c : Char) : Bool := c.isAlphanum || c = '_' || c = '-'

/-- A name, with or without quotes. -/
def readName (s : List Char) : Option (String × List Char) :=
  match s with
  | '"' :: rest =>
    (readQuoted (rest.length + 1) rest).map fun (name, rest) => (String.ofList name, rest)
  | '\'' :: rest => (readPlain rest).map fun (name, rest) => (String.ofList name, rest)
  | s =>
    if (s.takeWhile isBareChar).isEmpty then none
    else some (String.ofList (s.takeWhile isBareChar), s.dropWhile isBareChar)

/-- Names with dots between them. -/
def readNames : Nat → Reader (List String)
  | 0, _ => none
  | fuel + 1, s => do
    let (name, rest) ← readName (skipSpaces s)
    match skipSpaces rest with
    | '.' :: rest =>
      let (names, rest) ← readNames fuel rest
      return (name :: names, rest)
    | rest => return ([name], rest)

/-- How many levels of nesting are too many. -/
def nestingLimit : Nat := 80

/-- **`readKey s`** — the names that lead to a value, fewer than are too many. -/
def readKey (s : List Char) : Option (List String × List Char) := readNames (nestingLimit - 1) s

end LanCensus.Toml
