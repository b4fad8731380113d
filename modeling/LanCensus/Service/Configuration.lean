/-
# LanCensus.Service.Configuration -- the configuration of the service

A configuration has five sections, and every setting has a default, so that an empty file and a
missing one mean the same. A file that is there has to be readable, and its options have to
describe a sweep that can run.
-/

import LanCensus.Archive.Files
import LanCensus.Detect.Cascade
import LanCensus.Detect.Description
import LanCensus.Detect.OpenPorts
import LanCensus.Detect.SshGreeting
import LanCensus.Service.Failure
import LanCensus.Sweep.Options
import LanCensus.Toml.Document

namespace LanCensus.Service

/-! ## Sections -/

/-- **`DetectorOptions`** — which detectors are asked, and how long they wait. -/
structure DetectorOptions where
  /-- Devices are asked to describe themselves. -/
  upnp : Bool
  /-- Ports are tried. -/
  ports : Bool
  /-- Greetings of SSH servers are read. -/
  ssh : Bool
  /-- How many milliseconds a search lasts. -/
  upnpTimeoutMillis : UInt64
  /-- How many milliseconds a connection may take. -/
  portTimeoutMillis : UInt64
  deriving DecidableEq, Repr

/-- **`Configuration`** — the configuration of the service. -/
structure Configuration where
  /-- Where the service listens. -/
  bind : String
  /-- Whether scanning starts with the service. -/
  autostart : Bool
  sweep : Sweep.Options
  /-- The subnets to sweep; those of the interfaces if there are none. -/
  subnets : List String
  detectors : DetectorOptions
  devicesPath : String
  settingsPath : String
  deriving DecidableEq, Repr

namespace DetectorOptions

/-- All detectors. -/
def default : DetectorOptions := ⟨true, true, true, 2000, 400⟩

/-- The detectors in a section. -/
def ofToml? (v : Toml.Value) : Option DetectorOptions := do
  match ← v.fields ["upnp", "ports", "ssh", "upnp_timeout_ms", "port_timeout_ms"] with
  | [upnp, ports, ssh, upnpTimeout, portTimeout] =>
    let flag := Toml.orDefault true Toml.Value.flag?
    let word (d : Nat) := Toml.orDefault d (Toml.Value.below? Text.wordBound)
    return {
      upnp := ← flag upnp
      ports := ← flag ports
      ssh := ← flag ssh
      upnpTimeoutMillis := (← word 2000 upnpTimeout).toUInt64
      portTimeoutMillis := (← word 400 portTimeout).toUInt64 }
  | _ => none

/-- The detectors with their priorities, in the order in which they are asked. -/
def enabled (d : DetectorOptions) : List (String × Int) :=
  Detect.byPriority (·.2) ([
    (d.ports, Detect.portsName, Detect.portsPriority),
    (d.ssh, Detect.greetingName, Detect.greetingPriority),
    (d.upnp, Detect.upnpName, Detect.upnpPriority)].filterMap fun (on, detector) =>
      if on then some detector else none)

/-- The names of the detectors, in the order in which they are asked. -/
def names (d : DetectorOptions) : List String := d.enabled.map (·.1)

/-- The section in JSON. -/
def toJson (d : DetectorOptions) : Json := .object [
  ("upnp", .bool d.upnp),
  ("ports", .bool d.ports),
  ("ssh", .bool d.ssh),
  ("upnp_timeout_ms", .ofNat d.upnpTimeoutMillis.toNat),
  ("port_timeout_ms", .ofNat d.portTimeoutMillis.toNat)]

end DetectorOptions

/-- The options of sweeps in a section. -/
def sweepOptionsOfToml? (v : Toml.Value) : Option Sweep.Options := do
  let names := ["scan_interval_minutes", "max_concurrent_connections", "ping_timeout_ms",
    "start_octet", "end_octet", "network_throttle_delay_ms", "devices_before_throttle",
    "enable_continuous_scanning"]
  let d := Sweep.Options.default
  match ← v.fields names with
  | [interval, probes, timeout, start, stop, throttle, batch, continuous] =>
    let word (d : UInt64) := Toml.orDefault d.toNat (Toml.Value.below? Text.wordBound)
    let octet (d : UInt8) := Toml.orDefault d.toNat (Toml.Value.below? 256)
    return {
      intervalMinutes := (← word d.intervalMinutes interval).toUInt64
      maxProbes := (← word d.maxProbes probes).toUInt64
      pingTimeoutMillis := (← word d.pingTimeoutMillis timeout).toUInt64
      startOctet := (← octet d.startOctet start).toUInt8
      endOctet := (← octet d.endOctet stop).toUInt8
      throttleMillis := (← word d.throttleMillis throttle).toUInt64
      batchSize := (← word d.batchSize batch).toUInt64
      continuous := ← Toml.orDefault d.continuous Toml.Value.flag? continuous }
  | _ => none

namespace Configuration

/-- The configuration of a service that nobody has configured. -/
def default : Configuration where
  bind := "0.0.0.0:8080"
  autostart := true
  sweep := .default
  subnets := []
  detectors := .default
  devicesPath := "data/devices.json"
  settingsPath := "data/settings.json"

/-! ## Reading -/

/-- A section with two settings. -/
def pairOfToml? {α β : Type} (first second : String) (readFirst : Option Toml.Value → Option α)
    (readSecond : Option Toml.Value → Option β) (v : Toml.Value) : Option (α × β) := do
  match ← v.fields [first, second] with
  | [x, y] => return (← readFirst x, ← readSecond y)
  | _ => none

/-- The section about the service itself. -/
def webOfToml? : Toml.Value → Option (String × Bool) :=
  pairOfToml? "bind" "autostart" (Toml.orDefault default.bind Toml.Value.text?)
    (Toml.orDefault default.autostart Toml.Value.flag?)

/-- The section about files. -/
def pathsOfToml? : Toml.Value → Option (String × String) :=
  pairOfToml? "devices_path" "settings_path"
    (Toml.orDefault default.devicesPath Toml.Value.text?)
    (Toml.orDefault default.settingsPath Toml.Value.text?)

/-- The section about subnets. -/
def subnetsOfToml? (v : Toml.Value) : Option (List String) := do
  Toml.orDefault default.subnets Toml.Value.texts? (← (← v.fields ["subnets"]).head?)

/-- **`ofToml? v`** — the configuration in a table. -/
def ofToml? (v : Toml.Value) : Option Configuration := do
  match ← v.fields ["daemon", "scan", "discovery", "detectors", "storage"] with
  | [web, sweep, subnets, detectors, paths] =>
    let (bind, autostart) ← Toml.orDefault (default.bind, default.autostart) webOfToml? web
    let (devicesPath, settingsPath) ←
      Toml.orDefault (default.devicesPath, default.settingsPath) pathsOfToml? paths
    return {
      bind
      autostart
      sweep := ← Toml.orDefault default.sweep sweepOptionsOfToml? sweep
      subnets := ← Toml.orDefault default.subnets subnetsOfToml? subnets
      detectors := ← Toml.orDefault default.detectors DetectorOptions.ofToml? detectors
      devicesPath
      settingsPath }
  | _ => none

/-- The configuration that a text holds. -/
def ofText? (s : String) : Option Configuration := (Toml.read? s.toList).bind ofToml?

/-! ## Loading -/

/-- **`LoadError`** — why there is no configuration. -/
inductive LoadError where
  | unreadable (e : Archive.FileError)
  /-- The file is no configuration. -/
  | malformed
  | invalidSweep (e : Sweep.OptionsError)
  deriving DecidableEq, Repr

/-- The failure that an error is, for a file that was named so. -/
def LoadError.failure (path : String) : LoadError → Failure
  | .unreadable e => ⟨s!"Failed to read {path}", [e.message]⟩
  | .malformed => ⟨s!"Failed to parse {path}", []⟩
  | .invalidSweep e => ⟨s!"Invalid [scan] section in {path}", [e.message]⟩

/-- **`load files path`** — the configuration in a file, or the default one if there is no such
file. -/
def load (files : Archive.Files) (path : Archive.Path) : Except LoadError Configuration :=
  if !files.holds path then .ok default
  else do
    let s ← (files.readText path).mapError .unreadable
    match ofText? s with
    | none => throw .malformed
    | some config =>
      config.sweep.check.mapError .invalidSweep
      return config

/-! ## JSON -/

/-- The configuration in JSON. -/
def toJson (c : Configuration) : Json := .object [
  ("daemon", .object [("bind", .string c.bind), ("autostart", .bool c.autostart)]),
  ("scan", c.sweep.toJson),
  ("discovery", .object [("subnets", .array (c.subnets.map .string))]),
  ("detectors", c.detectors.toJson),
  ("storage", .object [
    ("devices_path", .string c.devicesPath),
    ("settings_path", .string c.settingsPath)])]

end Configuration

end LanCensus.Service
