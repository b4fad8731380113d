/-
# LanCensus.Archive.Settings -- named texts kept beside the inventory

Settings are texts by name. Every operation keeps the entries in ascending order of their names,
one entry for each name.
-/

import LanCensus.Json.Record

namespace LanCensus

/-- **`Settings`** — texts by name. -/
structure Settings where
  entries : List (String × String)
  deriving DecidableEq, Repr, Inhabited

namespace Settings

/-- No settings. -/
def empty : Settings := ⟨[]⟩

/-- The text under a name. -/
def get? (s : Settings) (name : String) : Option String := s.entries.lookup name

/-- Puts an entry into its place. -/
def put (name text : String) : List (String × String) → List (String × String)
  | [] => [(name, text)]
  | (other, t) :: rest =>
    if name = other then (name, text) :: rest
    else if name < other then (name, text) :: (other, t) :: rest
    else (other, t) :: put name text rest

/-- The settings with a text under a name. -/
def set (s : Settings) (name text : String) : Settings := ⟨put name text s.entries⟩

/-- Settings from entries in any order; the last one for a name counts. -/
def ofList (entries : List (String × String)) : Settings :=
  entries.foldl (fun s (name, text) => s.set name text) empty

/-- The settings as a JSON object. -/
def toJson (s : Settings) : Json := .object (s.entries.map fun (name, text) => (name, .string text))

/-- The settings that a text holds. -/
def ofText (s : String) : Except Json.Fault Settings :=
  (Json.readWhole (Json.readMap Json.readString) s).map ofList

end Settings

end LanCensus
