/-
# LanCensus.Xml.Content -- elements and their text

On top of the scanner's events: character data without the blanks at its edges, with references
resolved and adjoining pieces put together. Blanks next to a verbatim piece or to a comment inside
of a text are no edge and stay.

Elements are read in their order. An element that nobody asked for is skipped without a look at
its content beyond what the scanner checks, but for a text that it begins with.
-/

import LanCensus.Text.Number
import LanCensus.Xml.Event

namespace LanCensus.Xml

/-! ## References -/

/-- The character that a number stands for. -/
def numberedChar? (n : Nat) : Option Char :=
  if n = 0 then none else if h : n.isValidChar then some (Char.ofNatAux n h) else none

/-- The digits of a character reference. -/
def referenceNumber? (s : List Char) : Option Nat :=
  match s with
  | 'x' :: digits => (Text.digits? 16 digits).filter (· < Text.halfWordBound)
  | digits => (Text.digits? 10 digits).filter (· < Text.halfWordBound)

/-- What a reference stands for. -/
def referent? (name : List Char) : Option (List Char) :=
  match name with
  | '#' :: number => do return [← numberedChar? (← referenceNumber? number)]
  | _ =>
    match String.ofList name with
    | "lt" => some ['<']
    | "gt" => some ['>']
    | "amp" => some ['&']
    | "apos" => some ['\'']
    | "quot" => some ['"']
    | _ => none

/-- The text with its references resolved; `name` holds the letters of the reference that is being
read, last first. -/
def resolveFrom (name : Option (List Char)) : List Char → Option (List Char)
  | [] => if name.isSome then none else some []
  | c :: rest =>
    match name with
    | none => if c = '&' then resolveFrom (some []) rest else (resolveFrom none rest).map (c :: ·)
    | some letters =>
      if c = ';' then do return (← referent? letters.reverse) ++ (← resolveFrom none rest)
      else if c = '&' then none
      else resolveFrom (some (c :: letters)) rest

/-- **`resolve? s`** — the text with its references resolved, unless there is a wrong one. -/
def resolve? (s : List Char) : Option (List Char) := resolveFrom none s

/-! ## Edges -/

/-- The events with blanks at the beginning of texts removed, and texts that are blank. `edge`
says that a text would begin here. -/
def trimStarts (edge : Bool) : List Event → List Event
  | [] => []
  | .text raw :: rest =>
    let raw := if edge then raw.dropWhile isSpace else raw
    if edge && raw.isEmpty then trimStarts true rest else .text raw :: trimStarts false rest
  | .verbatim raw :: rest => .verbatim raw :: trimStarts false rest
  | e :: rest => e :: trimStarts true rest

/-- Whether a text ends in front of these events. -/
def textEnds : List Event → Bool
  | .text _ :: _ => false
  | .verbatim _ :: _ => false
  | _ => true

/-- **`Piece`** — a tag or a whole text. -/
inductive Piece where
  | start (name : List Char) (rest : List Char)
  | stop
  | text (s : List Char)
  | finish
  deriving DecidableEq, Repr

/-- The rest of a text, and the events after it. -/
def textRest : List Event → Option (List Char × List Event)
  | .text raw :: rest => do
    let s ← resolve? (if textEnds rest then trimEnd raw else raw)
    let (more, rest) ← textRest rest
    return (s ++ more, rest)
  | .verbatim raw :: rest => do
    let (more, rest) ← textRest rest
    return (raw ++ more, rest)
  | rest => some ([], rest)

/-- **`nextPiece es`** — the next piece and the events after it, unless the text has a fault
there. -/
def nextPiece : List Event → Option (Piece × List Event)
  | .start name inside :: rest => some (.start name inside, rest)
  | .stop :: rest => some (.stop, rest)
  | .text raw :: rest =>
    if textEnds rest && (trimEnd raw).isEmpty then nextPiece rest
    else (textRest (.text raw :: rest)).map fun (s, rest) => (.text s, rest)
  | .verbatim raw :: rest =>
    (textRest (.verbatim raw :: rest)).map fun (s, rest) => (.text s, rest)
  | .doctype :: rest => nextPiece rest
  | .finish :: _ => some (.finish, [])
  | .fault :: _ => none
  | [] => none

/-! ## Whole elements -/

/-- The events after the end of `depth` elements. -/
def passOver : Nat → List Event → Option (List Event)
  | 0, es => some es
  | depth + 1, .start _ _ :: rest => passOver (depth + 2) rest
  | depth + 1, .stop :: rest => passOver depth rest
  | _ + 1, .finish :: _ => none
  | _ + 1, .fault :: _ => none
  | _ + 1, [] => none
  | depth + 1, _ :: rest => passOver (depth + 1) rest
termination_by _ es => es.length

/-- **`skipElement es`** — the events after an element whose start tag has been read. -/
def skipElement (es : List Event) : Option (List Event) := do
  match ← nextPiece es with
  | (.stop, rest) => return rest
  | (.start _ _, rest) => passOver 2 rest
  | (.text _, rest) => passOver 1 rest
  | (.finish, _) => none

/-- **`elementText es`** — the text of an element whose start tag has been read and that holds
nothing else. -/
def elementText (es : List Event) : Option (List Char × List Event) := do
  match ← nextPiece es with
  | (.stop, rest) => return ([], rest)
  | (.text s, rest) =>
    match ← nextPiece rest with
    | (.stop, rest) => return (s, rest)
    | _ => none
  | _ => none

/-! ## Names and absent values -/

/-- The part of a name behind its colon, if it has one. -/
def localName (name : List Char) : List Char :=
  match Text.splitOnce ':' name with
  | some (_, rest) => rest
  | none => name

/-- Names bound to namespaces, the innermost binding first. -/
abbrev Scope := List (List Char × List Char)

/-- The names in scope inside of a tag. -/
def Scope.within (scope : Scope) (inside : List Char) : Scope := (bindings inside).reverse ++ scope

/-- The names that are in scope when the tag is the next event. -/
def Scope.ahead (scope : Scope) : List Event → Scope
  | .start _ inside :: _ => scope.within inside
  | _ => scope

/-- The namespace of the attribute that declares an element absent. -/
def instanceNamespace : List Char := standardNamespace "2001/XMLSchema-instance"

/-- Whether a tag declares its element absent. -/
def isAbsent (scope : Scope) (inside : List Char) : Bool :=
  ((attributes inside).filterMap id).any fun a =>
    match Text.splitOnce ':' a.name with
    | some (nick, name) =>
      name = "nil".toList && scope.lookup nick = some instanceNamespace
        && (a.value = "1".toList || a.value = "true".toList)
    | none => false

/-- Whether all attributes of a tag are well formed. -/
def isSound (inside : List Char) : Bool := (attributes inside).all Option.isSome

end LanCensus.Xml
