/-
# LanCensus.Service.Program -- from arguments to a running service

Before anything runs, the configuration is read and joined with the arguments, the subnets are
settled, and the inventory and the settings that were saved are loaded. The first thing that is
wrong makes the program give up.
-/

import LanCensus.Net.Subnet
import LanCensus.Service.Requests
import LanCensus.Service.CommandLine
import LanCensus.Service.Configuration
import LanCensus.Service.Listening

namespace LanCensus.Service

/-! ## Getting ready -/

/-- The configuration with what the arguments say. -/
def Invocation.applied (i : Invocation) (c : Configuration) : Configuration :=
  { c with
    bind := i.bind.getD c.bind
    subnets := if i.subnets.isEmpty then c.subnets else i.subnets }

/-- **`Configuration.subnetNames c interfaces`** — the names of the subnets to sweep. -/
def Configuration.subnetNames (c : Configuration) (interfaces : List Interface) :
    Except SubnetError (List String) :=
  if c.subnets.isEmpty then .ok (localSubnets interfaces) else fixedSubnets c.subnets

/-- The store that a configuration names. -/
def Configuration.store (c : Configuration) (files : Archive.Files) : Archive.Store :=
  .inFiles ⟨files, .ofText c.devicesPath, .ofText c.settingsPath⟩

/-- **`Opened`** — a service that is ready. -/
structure Opened where
  office : Office
  /-- The names of the subnets to sweep. -/
  subnets : List String

/-- **`Configuration.openService c interfaces files now`** — the service with this configuration. -/
def Configuration.openService (c : Configuration) (interfaces : List Interface)
    (files : Archive.Files) (now : Instant) : Except Failure Opened := do
  let subnets ← (c.subnetNames interfaces).mapError fun e =>
    ⟨"Invalid [discovery] subnets", [e.message]⟩
  let desk := Desk.openWith (c.store files) []
  let inventory := Inventory.empty.restore (Desk.savedDevices (c.store files) [])
  let census ← (Census.create now c.sweep inventory).mapError fun e => ⟨e.message, []⟩
  return ⟨⟨census, desk⟩, subnets⟩

/-- **`Invocation.configure i files`** — the configuration for an invocation. -/
def Invocation.configure (i : Invocation) (files : Archive.Files) :
    Except Failure Configuration := do
  let c ← (Configuration.load files (.ofText i.configPath)).mapError (·.failure i.configPath)
  return i.applied c

/-! ## The end of a single sweep -/

/-- A device in the summary. -/
def summaryLine (d : Device) : String :=
  s!"  - {d.name} at {d.address.text} [{d.mac}] {d.kind} ({d.responseTime.millis} ms)\n"

/-- **`summary ds`** — what is said about an inventory. -/
def summary (ds : List Device) : String :=
  let online := ds.filter (·.online)
  s!"{ds.length} devices, {online.length} online:\n" ++ String.join (online.map summaryLine)

/-- The failure that an error in saving is. -/
def SaveError.failure (c : Configuration) (e : SaveError) : Failure :=
  match e with
  | .inventory cause => ⟨e.message, (cause.map (·.causes c.devicesPath)).getD []⟩
  | .settings cause => ⟨e.message, (cause.map (·.causes c.settingsPath)).getD []⟩

/-- **`Exit`** — how the program ends. -/
structure Exit where
  code : Nat
  output : String
  complaint : String
  deriving DecidableEq, Repr

/-- The program has done what it was to do. -/
def Exit.success (output : String) : Exit := ⟨0, output, ""⟩

/-- The program has given up. -/
def Exit.failure (output : String) (f : Failure) : Exit := ⟨1, output, f.report⟩

/-- The arguments were wrong. -/
def Exit.misuse : Exit := ⟨2, "", usage⟩

end LanCensus.Service
