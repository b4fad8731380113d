/-
# LanCensus.Service.Desk -- what the service keeps beside the census

The desk keeps the settings and the store, and it forwards what the census announces to the
clients, all notices in one stream. When it hears that a sweep has been completed it notes the
time and saves everything.

Saving takes two writes, first the devices and then the settings. The settings are written as they
are when their turn has come, and not at all if the devices could not be written. A write takes
effect some time after it was begun, so that several savings may be under way at once.
-/

import LanCensus.Archive.Store
import LanCensus.Census.Basic

namespace LanCensus.Service

/-- The name under which the time of the last completed sweep is kept. -/
def lastSweepName : String := "last_scan_completed"

/-- The name under which the address that was last probed on demand is kept. -/
def lastProbedName : String := "last_connected_ip"

/-! ## Writes -/

/-- **`Writing`** — a write that has been begun. -/
inductive Writing where
  /-- The devices are written, and after them the settings. -/
  | devices (ds : List Device)
  /-- The settings are written. -/
  | settings (m : Settings)
  deriving DecidableEq, Repr

/-- **`SaveError`** — what could not be saved. -/
inductive SaveError where
  | inventory (cause : Option Archive.StoreError)
  | settings (cause : Option Archive.StoreError)
  deriving DecidableEq, Repr

/-- What is said about an error. -/
def SaveError.message : SaveError → String
  | .inventory _ => "Failed to save roster"
  | .settings _ => "Failed to save settings"

/-- **`StoreCall`** — something a store can be asked for. -/
inductive StoreCall where
  | readDevices
  | writeDevices
  | readSettings
  | writeSettings
  deriving DecidableEq, Repr

/-! ## The desk -/

/-- **`Desk`** — settings, store and the stream of notices. -/
structure Desk where
  settings : Settings
  store : Archive.Store
  /-- Calls that fail whatever the store holds. -/
  broken : List StoreCall
  /-- How often something was to be saved. -/
  saves : Nat
  /-- How many notices of the census have been forwarded. -/
  forwarded : Nat
  /-- The stream for the clients, the latest notice first. -/
  stream : List Notice
  deriving DecidableEq, Repr

namespace Desk

/-! ## Opening -/

/-- The saved devices; none if they cannot be loaded. -/
def savedDevices (store : Archive.Store) (broken : List StoreCall) : List Device :=
  if .readDevices ∈ broken then [] else store.readDevices.toOption.getD []

/-- The saved settings; none if they cannot be loaded. -/
def savedSettings (store : Archive.Store) (broken : List StoreCall) : Settings :=
  if .readSettings ∈ broken then .empty else store.readSettings.toOption.getD .empty

/-- **`openWith store broken`** — the desk over a store when the service starts. -/
def openWith (store : Archive.Store) (broken : List StoreCall) : Desk where
  settings := savedSettings store broken
  store := store
  broken := broken
  saves := 0
  forwarded := 0
  stream := []

/-! ## Saving -/

/-- Carries out a write. -/
def write (d : Desk) : Writing → Desk × Except SaveError Unit
  | .devices ds =>
    let d := { d with saves := d.saves + 1 }
    if .writeDevices ∈ d.broken then (d, .error (.inventory none))
    else
      match d.store.writeDevices ds with
      | (store, .ok ()) => ({ d with store }, .ok ())
      | (store, .error e) => ({ d with store }, .error (.inventory (some e)))
  | .settings m =>
    let d := { d with saves := d.saves + 1 }
    if .writeSettings ∈ d.broken then (d, .error (.settings none))
    else
      match d.store.writeSettings m with
      | (store, .ok ()) => ({ d with store }, .ok ())
      | (store, .error e) => ({ d with store }, .error (.settings (some e)))

/-- What is written after a write that has succeeded. -/
def following (d : Desk) : Writing → Option Writing
  | .devices _ => some (.settings d.settings)
  | .settings _ => none

/-- **`writeSettings d`** — saves the settings. -/
def writeSettings (d : Desk) : Desk × Except SaveError Unit := d.write (.settings d.settings)

/-- **`save d inventory`** — saves the inventory and the settings. -/
def save (d : Desk) (inventory : Inventory) : Desk × Except SaveError Unit :=
  match d.write (.devices inventory.toList) with
  | (d, .error e) => (d, .error e)
  | (d, .ok ()) => d.writeSettings

/-! ## Notes -/

/-- Keeps a text under a name. -/
def note (d : Desk) (name text : String) : Desk := { d with settings := d.settings.set name text }

/-- **`rememberProbed d a`** — notes the address that was probed on demand, and saves that. -/
def rememberProbed (d : Desk) (a : Address) : Desk := (d.note lastProbedName a.text).writeSettings.1

/-! ## Forwarding -/

/-- What the desk does for itself about a notice. -/
def heed (d : Desk) (inventory : Inventory) : Notice → Desk
  | .schedule (.sweepCompleted t) => ((d.note lastSweepName t.textToSecond).save inventory).1
  | _ => d

/-- Passes a notice on to the clients. -/
def pass (d : Desk) (n : Notice) : Desk := { d with stream := n :: d.stream }

/-- Forwards a notice. -/
def forward (d : Desk) (inventory : Inventory) (n : Notice) : Desk := (d.heed inventory n).pass n

end Desk

end LanCensus.Service
