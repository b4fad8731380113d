/-
# LanCensus.Json.Record -- reading lists, maps and records

A record is written as an object whose members stand in any order, or as an array of its fields
in their own order. In an object, members that the record does not know are skipped, and a known
one may occur once only. In an array, fields at the end may be left out if the record has a
default for them. What a record lacks is seen when its closing bracket is reached, so it is
noticed before anything behind it.
-/

import LanCensus.Json.Reader

namespace LanCensus.Json

/-! ## Steps through brackets -/

/-- The text from the next item of an array on, or nothing if the closing bracket is next.
`first` says that there was no item yet. -/
def nextItem (first : Bool) (s : List Char) : Except Fault (Option (List Char)) :=
  match skipSpace s with
  | [] => .error .eof
  | ']' :: _ => .ok none
  | c :: rest =>
    if first then .ok (some (c :: rest))
    else if c = ',' then
      match skipSpace rest with
      | [] => .error .eof
      | ']' :: _ => .error .syn
      | rest => .ok (some rest)
    else .error .syn

/-- The text behind the opening quote of the next member of an object, or nothing if the closing
brace is next. -/
def nextMember (first : Bool) (s : List Char) : Except Fault (Option (List Char)) :=
  match skipSpace s with
  | [] => .error .eof
  | '\x7d' :: _ => .ok none
  | c :: rest =>
    if first then
      if c = '"' then .ok (some rest) else .error .syn
    else if c = ',' then
      match skipSpace rest with
      | '"' :: rest => .ok (some rest)
      | rest => .error (unexpected rest)
    else .error .syn

/-- The name of a member, whose opening quote has been read, and its colon. -/
def memberName (s : List Char) : Except Fault (String × List Char) := do
  let (name, s) ← stringBody s
  return (String.ofList name, s)

/-- A mark that has to be next. -/
def close (c : Char) (s : List Char) : Except Fault (List Char) :=
  match skipSpace s with
  | d :: rest => if d = c then .ok rest else .error .syn
  | [] => .error .eof

/-! ## Records -/

/-- **`Field σ`** — one field of a record that is put together in `σ`. -/
structure Field (σ : Type) where
  name : String
  /-- Whether the record cannot do without the field. -/
  required : Bool
  /-- Whether the field has been read already. -/
  given : σ → Bool
  /-- Reads the field's value into the record. -/
  read : σ → Reader σ

/-- Reads the rest of the member `name` from its colon on. -/
def readMember {σ : Type} (fields : List (Field σ)) (name : String) (draft : σ) : Reader σ :=
  fun s =>
    match fields.find? (·.name == name) with
    | some field =>
      if field.given draft then .error .data
      else do field.read draft (← close ':' s)
    | none => do return (draft, ← skipValue (← close ':' s))

/-- The members of an object up to its closing brace, which is left in the text. `fuel` bounds
the number of members. -/
def readMembers {σ : Type} (fields : List (Field σ)) : Nat → Bool → σ → Reader σ
  | 0, _, _, _ => .error .eof
  | fuel + 1, first, draft, s => do
    match ← nextMember first s with
    | none => return (draft, s)
    | some s =>
      let (name, s) ← memberName s
      let (draft, s) ← readMember fields name draft s
      readMembers fields fuel false draft s

/-- Fields from an array, up to its closing bracket or to the last field. -/
def readItems {σ : Type} : List (Field σ) → Bool → σ → Reader σ
  | [], _, draft, s => .ok (draft, s)
  | field :: fields, first, draft, s => do
    match ← nextItem first s with
    | none => if field.required then throw .data else readItems fields first draft s
    | some s =>
      let (draft, s) ← field.read draft s
      readItems fields false draft s

/-- **`readRecord fields draft finish`** — a record with the given fields. `finish` makes the
record out of what has been read, or finds that something is missing. -/
def readRecord {σ α : Type} (fields : List (Field σ)) (draft : σ) (finish : σ → Option α) :
    Reader α := fun s =>
  match skipSpace s with
  | '\x7b' :: rest => do
    let (draft, s) ← readMembers fields (rest.length + 1) true draft rest
    match finish draft with
    | none => throw .data
    | some x => return (x, ← close '\x7d' s)
  | '[' :: rest => do
    let (draft, s) ← readItems fields true draft rest
    match finish draft with
    | none => throw .data
    | some x => return (x, ← close ']' s)
  | s => .error (wrongShape s)

/-! ## Lists and maps -/

/-- The items of an array up to its closing bracket, which is left in the text. -/
def readListFrom {α : Type} (r : Reader α) : Nat → Bool → Reader (List α)
  | 0, _, _ => .error .eof
  | fuel + 1, first, s => do
    match ← nextItem first s with
    | none => return ([], s)
    | some s =>
      let (x, s) ← r s
      let (xs, s) ← readListFrom r fuel false s
      return (x :: xs, s)

/-- **`readList r`** — an array of what `r` reads. -/
def readList {α : Type} (r : Reader α) : Reader (List α) := fun s =>
  match skipSpace s with
  | '[' :: rest => do
    let (xs, s) ← readListFrom r (rest.length + 1) true rest
    return (xs, ← close ']' s)
  | s => .error (wrongShape s)

/-- The members of an object up to its closing brace, which is left in the text. -/
def readMapFrom {α : Type} (r : Reader α) : Nat → Bool → Reader (List (String × α))
  | 0, _, _ => .error .eof
  | fuel + 1, first, s => do
    match ← nextMember first s with
    | none => return ([], s)
    | some s =>
      let (name, s) ← memberName s
      let (x, s) ← r (← close ':' s)
      let (xs, s) ← readMapFrom r fuel false s
      return ((name, x) :: xs, s)

/-- **`readMap r`** — an object whose members all hold what `r` reads, in their order. -/
def readMap {α : Type} (r : Reader α) : Reader (List (String × α)) := fun s =>
  match skipSpace s with
  | '\x7b' :: rest => do
    let (xs, s) ← readMapFrom r (rest.length + 1) true rest
    return (xs, ← close '\x7d' s)
  | s => .error (wrongShape s)

end LanCensus.Json
