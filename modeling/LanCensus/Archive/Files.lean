/-
# LanCensus.Archive.Files -- files and directories

A small file system: files and directories below one directory that always exists. A path is the
list of the names on the way down. Looking up, reading, making directories and writing fail the
way they do in a real one, and the first thing that is wrong on the way decides how.
-/

import LanCensus.Text.Blank
import LanCensus.Text.Utf8

namespace LanCensus.Archive

/-! ## Paths -/

/-- **`Path`** — a way down. -/
structure Path where
  parts : List String
  /-- A slash at the end says that a directory is meant. -/
  slash : Bool
  deriving DecidableEq, Repr

/-- The path that a text names below the top directory. Doubled slashes and dots that mean the same
place do not count. -/
def Path.ofString (s : String) : Path where
  parts := ((Text.splitAt '/' s.toList).map String.ofList).filter fun p => p ≠ "" && p ≠ "."
  slash := s.toList.getLast? = some '/'

/-- The path that a text names by itself. An empty text names nothing. -/
def Path.ofText (s : String) : Path := if s = "" then ⟨[""], false⟩ else .ofString s

/-! ## What can go wrong -/

/-- **`FileError`** — why an operation failed. -/
inductive FileError where
  | notFound
  | notADirectory
  | isADirectory
  | alreadyExists
  /-- The content is not text. -/
  | invalidData
  /-- A name on the path is too long. -/
  | invalidFilename
  /-- A name on the path cannot be one. -/
  | invalidInput
  deriving DecidableEq, Repr

/-- The name of an error. -/
def FileError.name : FileError → String
  | .notFound => "NotFound"
  | .notADirectory => "NotADirectory"
  | .isADirectory => "IsADirectory"
  | .alreadyExists => "AlreadyExists"
  | .invalidData => "InvalidData"
  | .invalidFilename => "InvalidFilename"
  | .invalidInput => "InvalidInput"

/-- What is said about an error. -/
def FileError.message : FileError → String
  | .notFound => "No such file or directory (os error 2)"
  | .notADirectory => "Not a directory (os error 20)"
  | .isADirectory => "Is a directory (os error 21)"
  | .alreadyExists => "File exists (os error 17)"
  | .invalidData => "stream did not contain valid UTF-8"
  | .invalidFilename => "File name too long (os error 36)"
  | .invalidInput => "file name contained an unexpected NUL byte"

/-! ## The tree -/

/-- **`Entry`** — what is at a place. -/
inductive Entry where
  | file (content : List UInt8)
  | directory
  deriving DecidableEq, Repr

/-- **`Files`** — the entries by place. The place without a name is the top directory. -/
structure Files where
  entries : List (List String × Entry)
  deriving DecidableEq, Repr

namespace Files

/-- Nothing but the top directory. -/
def empty : Files := ⟨[]⟩

/-- What is at a place. -/
def entry? (f : Files) (place : List String) : Option Entry :=
  if place.isEmpty then some .directory else f.entries.lookup place

/-- Puts an entry at a place. -/
def put (f : Files) (place : List String) (e : Entry) : Files :=
  ⟨(place, e) :: f.entries.filter fun (p, _) => p ≠ place⟩

/-- Whether a directory is at a place. -/
def isDirectory (f : Files) (place : List String) : Bool := f.entry? place = some .directory

/-! ## Finding the way -/

/-- The greatest length of a name in bytes. -/
def nameLimit : Nat := 255

/-- One step down from a place, or up. -/
def step (f : Files) (place : List String) (name : String) : Except FileError (List String) :=
  if !f.isDirectory place then .error .notADirectory
  else if nameLimit < name.utf8ByteSize then .error .invalidFilename
  else if name = ".." then .ok place.dropLast
  else .ok (place ++ [name])

/-- Goes down a list of names; all places but the last have to exist. -/
def walk (f : Files) (place : List String) : List String → Except FileError (List String)
  | [] => .ok place
  | [name] => f.step place name
  | name :: rest => do
    let below ← f.step place name
    if (f.entry? below).isNone then throw .notFound
    f.walk below rest

/-- The place that a path leads to. -/
def resolve (f : Files) (parts : List String) : Except FileError (List String) :=
  if parts.any fun p => p.toList.contains '\x00' then .error .invalidInput
  else if parts.contains "" then .error .notFound
  else f.walk [] parts

/-! ## Operations -/

/-- Whether something is where a path leads. -/
def holds (f : Files) (path : Path) : Bool :=
  match f.resolve path.parts with
  | .ok place =>
    match f.entry? place with
    | some .directory => true
    | some (.file _) => !path.slash
    | none => false
  | .error _ => false

/-- **`read f path`** — the content of a file. -/
def read (f : Files) (path : Path) : Except FileError (List UInt8) := do
  match f.entry? (← f.resolve path.parts) with
  | none => throw .notFound
  | some .directory => throw .isADirectory
  | some (.file content) => if path.slash then throw .notADirectory else return content

/-- **`readText f path`** — the text in a file. -/
def readText (f : Files) (path : Path) : Except FileError String := do
  match Text.Utf8.string? (← f.read path) with
  | some s => return s
  | none => throw .invalidData

/-- Makes one directory. -/
def makeDirectory (f : Files) (parts : List String) : Except FileError Files := do
  let place ← f.resolve parts
  if (f.entry? place).isSome then throw .alreadyExists
  return f.put place .directory

/-- Whether a path leads to a directory. -/
def leadsToDirectory (f : Files) (parts : List String) : Bool :=
  match f.resolve parts with
  | .ok place => f.isDirectory place
  | .error _ => false

/-- Makes a directory, named from the bottom up, and those above it that are missing. What was
made before something went wrong stays. -/
def makeDirectoriesUp (f : Files) : List String → Files × Except FileError Unit
  | [] => (f, .ok ())
  | name :: above =>
    let parts := (name :: above).reverse
    match f.makeDirectory parts with
    | .ok g => (g, .ok ())
    | .error e =>
      if e = .notFound then
        match f.makeDirectoriesUp above with
        | (g, .error e) => (g, .error e)
        | (g, .ok ()) =>
          match g.makeDirectory parts with
          | .ok g => (g, .ok ())
          | .error e => (g, if g.leadsToDirectory parts then .ok () else .error e)
      else (f, if f.leadsToDirectory parts then .ok () else .error e)

/-- **`makeDirectories f parts`** — makes a directory and those above it that are missing. -/
def makeDirectories (f : Files) (parts : List String) : Files × Except FileError Unit :=
  f.makeDirectoriesUp parts.reverse

/-- Puts a content into a file that may or may not exist. -/
def overwrite (f : Files) (path : Path) (content : List UInt8) : Except FileError Files := do
  let place ← f.resolve path.parts
  if path.slash || f.isDirectory place then throw .isADirectory
  return f.put place (.file content)

/-- **`write f path content`** — writes a file and makes the directories above it. -/
def write (f : Files) (path : Path) (content : List UInt8) : Files × Except FileError Unit :=
  match f.makeDirectories path.parts.dropLast with
  | (f, .error e) => (f, .error e)
  | (f, .ok ()) =>
    match f.overwrite path content with
    | .ok g => (g, .ok ())
    | .error e => (f, .error e)

/-- **`writeText f path s`** — writes a text into a file. -/
def writeText (f : Files) (path : Path) (s : String) : Files × Except FileError Unit :=
  f.write path (Text.Utf8.ofString s)

end Files

end LanCensus.Archive
