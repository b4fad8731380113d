/-
# LanCensus.Toml.Document -- reading whole configurations

Values are texts, numbers, moments, flags, lists in brackets and tables in braces. A list may go
over several lines and may have a comma at its end; a table in braces may not. How deep brackets
may be nested is limited.
-/

import LanCensus.Toml.Number
import LanCensus.Toml.Table

namespace LanCensus.Toml

/-! ## Values -/

/-- The items of a list whose opening bracket has been read. -/
def readItems (item : Reader Value) : Nat → Reader (List Value)
  | 0, _ => none
  | fuel + 1, s => do
    match ← skipLines (s.length + 1) s with
    | ']' :: rest => return ([], rest)
    | s =>
      let (x, s) ← item s
      match ← skipLines (s.length + 1) s with
      | ']' :: rest => return ([x], rest)
      | ',' :: rest =>
        let (xs, s) ← readItems item fuel rest
        return (x :: xs, s)
      | _ => none

/-- A key and its value; the text after them begins with no blank. -/
def readAssignment (item : Reader Value) (s : List Char) :
    Option ((List String × Value) × List Char) :=
  do
    let (names, s) ← readKey s
    let (v, s) ← item (skipSpaces (← readMark '=' s))
    return ((names, v), skipSpaces s)

/-- Gives a value to a key, all of whose names are given. -/
def put (ms : Members) (names : List String) (v : Value) : Option Members := do
  Members.define names.dropLast (← names.getLast?) v ms

/-- The members of a table in braces, from a key on. -/
def readMembers (item : Reader Value) : Nat → Members → Reader Members
  | 0, _, _ => none
  | fuel + 1, ms, s => do
    let ((names, v), s) ← readAssignment item s
    let ms ← put ms names v
    match s with
    | '\x7d' :: rest => return (ms, rest)
    | ',' :: rest => readMembers item fuel ms rest
    | _ => none

/-- A value, within which brackets may be nested so many times. -/
def readValue : Nat → Reader Value
  | depth, s =>
    match s, depth with
    | '"' :: _, _ | '\'' :: _, _ =>
      (readText s).map fun (t, rest) => (.text (String.ofList t), rest)
    | 't' :: 'r' :: 'u' :: 'e' :: rest, _ => some (.flag true, rest)
    | 'f' :: 'a' :: 'l' :: 's' :: 'e' :: rest, _ => some (.flag false, rest)
    | '[' :: _, 0 | '\x7b' :: _, 0 => none
    | '[' :: rest, depth + 1 =>
      (readItems (readValue depth) (rest.length + 1) rest).map fun (xs, rest) => (.list xs, rest)
    | '\x7b' :: rest, depth + 1 =>
      match skipSpaces rest with
      | '\x7d' :: rest => some (.table [], rest)
      | s =>
        (readMembers (readValue depth) (s.length + 1) [] s).map fun (ms, rest) => (ms.toValue, rest)
    | s, _ => readNumber s

/-! ## Lines -/

/-- **`Draft`** — what has been read of a configuration. -/
structure Draft where
  members : Members
  /-- The names in the last heading. -/
  heading : List String

/-- A line that gives a value to a key. -/
def readSetting (d : Draft) (s : List Char) : Option (Draft × List Char) := do
  let ((names, v), s) ← readAssignment (readValue (nestingLimit - 1)) s
  let members ← d.members.change false (fun _ ms => put ms names v) d.heading .stated
  return ({ d with members }, ← endLine s)

/-- A heading whose opening bracket has been read. -/
def readHeading (d : Draft) (s : List Char) : Option (Draft × List Char) := do
  let (names, s) ← readKey s
  let members ← Members.state names.dropLast (← names.getLast?) d.members
  return (⟨members, names⟩, ← endLine (← readMark ']' s))

/-- A heading of a list of tables, whose opening brackets have been read. -/
def readListHeading (d : Draft) (s : List Char) : Option (Draft × List Char) := do
  let (names, s) ← readKey s
  let members ← Members.extend names.dropLast (← names.getLast?) d.members
  return (⟨members, names⟩, ← endLine (← readMark ']' (← readMark ']' s)))

/-- The lines of a configuration. -/
def readLines : Nat → Draft → List Char → Option Members
  | 0, _, _ => none
  | fuel + 1, d, s =>
    match skipSpaces s with
    | [] => some d.members
    | '\n' :: rest => readLines fuel d rest
    | '#' :: rest => (endLine ('#' :: rest)).bind fun rest => readLines fuel d rest
    | '[' :: '[' :: rest => (readListHeading d rest).bind fun (d, rest) => readLines fuel d rest
    | '[' :: rest => (readHeading d rest).bind fun (d, rest) => readLines fuel d rest
    | s => (readSetting d s).bind fun (d, rest) => readLines fuel d rest

/-! ## Documents -/

/-- The text with a line feed for each line break. -/
def plainBreaks : List Char → List Char
  | '\r' :: '\n' :: rest => '\n' :: plainBreaks rest
  | c :: rest => c :: plainBreaks rest
  | [] => []

/-- The text without the mark that may stand at the beginning of a file. -/
def withoutMark : List Char → List Char
  | '\uFEFF' :: rest => rest
  | s => s

/-- **`read? s`** — the table that a configuration holds. -/
def read? (s : List Char) : Option Value :=
  let s := plainBreaks (withoutMark s)
  (readLines (s.length + 1) ⟨[], []⟩ s).map Members.toValue

end LanCensus.Toml
