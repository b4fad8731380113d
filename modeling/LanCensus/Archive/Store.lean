/-
# LanCensus.Archive.Store -- where inventory and settings are kept

A store keeps a list of devices and the settings. One kind keeps them in memory, the other in two
JSON files, indented for readers. A file that does not exist is an empty one. A record in a file
holds whole milliseconds, so a response time loses its fraction there.
-/

import LanCensus.Archive.Files
import LanCensus.Archive.Settings
import LanCensus.Device.Record

namespace LanCensus.Archive

/-- **`StoreError`** — why something could not be loaded or saved. -/
inductive StoreError where
  | io (e : FileError)
  | json (f : Json.Fault)
  deriving DecidableEq, Repr

/-- The kind of an error. -/
def StoreError.kind : StoreError → String
  | .io _ => "Io"
  | .json _ => "Json"

/-- What an error of its kind it is. -/
def StoreError.detail : StoreError → String
  | .io e => e.name
  | .json f => f.name

/-- The causes that an error names, for a file that was named so. -/
def StoreError.causes (path : String) : StoreError → List String
  | .io e => [s!"IO error on {path}: {e.message}", e.message]
  | .json f => [s!"JSON error in {path}: {f.name}", f.name]

/-! ## JSON files -/

/-- **`FileStore`** — two JSON files and where they are. -/
structure FileStore where
  files : Files
  devicesPath : Path
  settingsPath : Path
  deriving DecidableEq, Repr

/-- What a file holds, or `default` if it does not exist. -/
def loadFile {α : Type} (files : Files) (path : Path) (read : String → Except Json.Fault α)
    (default : α) : Except StoreError α :=
  match files.readText path with
  | .error .notFound => .ok default
  | .error e => .error (.io e)
  | .ok text => (read text).mapError .json

/-- Writes a value into a file. -/
def saveFile (files : Files) (path : Path) (v : Json) : Files × Except StoreError Unit :=
  let (files, result) := files.writeText path (String.ofList v.pretty)
  (files, result.mapError .io)

/-! ## Stores -/

/-- **`Store`** — a store of either kind. -/
inductive Store where
  | inMemory (devices : List Device) (settings : Settings)
  | inFiles (s : FileStore)
  deriving DecidableEq, Repr

namespace Store

/-- An empty store in memory. -/
def volatile : Store := .inMemory [] .empty

/-- **`readDevices s`** — the saved devices. -/
def readDevices : Store → Except StoreError (List Device)
  | .inMemory devices _ => .ok devices
  | .inFiles s => loadFile s.files s.devicesPath Device.listOfText []

/-- **`readSettings s`** — the saved settings. -/
def readSettings : Store → Except StoreError Settings
  | .inMemory _ settings => .ok settings
  | .inFiles s => loadFile s.files s.settingsPath Settings.ofText .empty

/-- **`writeDevices s ds`** — saves devices in the place of those saved before. -/
def writeDevices (s : Store) (ds : List Device) : Store × Except StoreError Unit :=
  match s with
  | .inMemory _ settings => (.inMemory ds settings, .ok ())
  | .inFiles s =>
    let (files, result) := saveFile s.files s.devicesPath (Device.listToJson ds)
    (.inFiles { s with files }, result)

/-- **`writeSettings s m`** — saves settings in the place of those saved before. -/
def writeSettings (s : Store) (m : Settings) : Store × Except StoreError Unit :=
  match s with
  | .inMemory devices _ => (.inMemory devices m, .ok ())
  | .inFiles s =>
    let (files, result) := saveFile s.files s.settingsPath m.toJson
    (.inFiles { s with files }, result)

end Store

end LanCensus.Archive
