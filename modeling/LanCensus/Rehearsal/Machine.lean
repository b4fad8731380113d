/-
# LanCensus.Rehearsal.Machine -- a scripted machine to run the program on

The machine has files, tools whose output is scripted, names for addresses and maybe a local
network. The program is started on it with arguments, or a service is opened and asked about one
address. No time passes.
-/

import LanCensus.Net.Echo
import LanCensus.Net.HostName
import LanCensus.Net.Neighbour
import LanCensus.Rehearsal.Lan
import LanCensus.Rehearsal.Script
import LanCensus.Service.Program

namespace LanCensus.Rehearsal

open Service

/-- **`Machine`** — a scripted machine. -/
structure Machine where
  now : Instant
  /-- What pings of addresses write; all others fail. -/
  pings : List (Address × List UInt8)
  /-- What the tool that lists neighbours does. -/
  neighbours : ToolRun
  /-- What the system answers about the name of an address. -/
  nameOf : Address → Option String
  interfaces : List Interface
  lan : Option Lan

namespace Machine

/-- What the detectors of a configuration say about an address. -/
def label (m : Machine) (d : DetectorOptions) (name : String) (a : Address) : Option String :=
  let lan := m.lan.getD .deserted
  if name = Detect.portsName then portsLabel lan Detect.commonPorts a
  else if name = Detect.greetingName then greetingLabel lan Detect.sshPort a
  else ((Survey.initial m.lan d.upnpTimeoutMillis.toNat m.now none).ask a).2

/-- A host whose ping has written an output. -/
def host? (m : Machine) (a : Address) (output : List UInt8) : Option Host :=
  (Echo.reply? (.ended true output)).map fun reply => {
    responseTime :=
      match reply with
      | .timed t => t
      | .untimed => .zero
    delay := 0
    down := false
    crashes := false
    name := (m.nameOf a).bind fun s => hostName? s.toList a
    mac := Neighbour.mac? m.neighbours none a }

/-- The network as the program meets it. -/
def world (m : Machine) (c : Configuration) (subnets : List String) : World where
  hosts := m.pings.foldl
    (fun hosts (a, output) => (m.host? a output).elim hosts (hosts.insert a)) .empty
  missDelay := 0
  listing := ⟨subnets, none, false, 0⟩
  oracles := c.detectors.enabled.map fun (name, priority) =>
    ⟨name, priority,
      m.pings.map fun (a, _) => (a.text, m.label c.detectors name a), 0⟩

end Machine

/-! ## One address -/

/-- **`Visit`** — what comes of opening a service, asking about an address and saving. -/
structure Visit where
  /-- The service before it was asked. -/
  opened : Office
  probed : Option Device
  saved : Except SaveError Unit
  /-- The service at the end. -/
  closed : Office

/-- **`visit m c files text`** — opens a service, asks about the address that a text names, if
there is one, and saves. -/
def visit (m : Machine) (c : Configuration) (files : Archive.Files) (text : Option String) :
    Except Failure Visit := do
  let opened ← c.openService m.interfaces files m.now
  let g := Stage.initial opened.office (m.world c opened.subnets)
  let asked : Office × Option Device :=
    match text.map g.beginLookup with
    | some (g, some id) =>
      match g.finishLookup id with
      | .ok (g, d) => ((g.toOffice.probed d).1, some d)
      | .error _ => (g.toOffice, none)
    | some (g, none) => (g.toOffice, none)
    | none => (g.toOffice, none)
  let (office, probed) := asked
  let (desk, saved) := office.desk.save office.census.inventory
  return ⟨opened.office, probed, saved, { office with desk }⟩

/-! ## The program -/

/-- The files at the end, which a service keeps in its store. -/
def filesOf (s : Archive.Store) (files : Archive.Files) : Archive.Files :=
  match s with
  | .inFiles f => f.files
  | .inMemory .. => files

/-- A single sweep: its inventory is told and saved. -/
def runOnce (m : Machine) (c : Configuration) (files : Archive.Files) (opened : Opened) :
    Exit × Archive.Files :=
  let g := Stage.initial opened.office (m.world c opened.subnets)
  match g.requestSweep.finishSweep g.census.fresh with
  | .error _ => (⟨101, "", ""⟩, files)
  | .ok (g, inventory) =>
    let g := g.attend.settle
    let output := summary inventory
    match g.desk.save g.census.inventory with
    | (desk, .ok ()) => (.success output, filesOf desk.store files)
    | (desk, .error e) => (.failure output (e.failure c), filesOf desk.store files)

/-- A service that is interrupted as soon as nothing is left to do. -/
def runService (m : Machine) (c : Configuration) (files : Archive.Files) (opened : Opened) :
    Exit × Archive.Files :=
  let p := Play.initial opened.office (m.world c opened.subnets)
  match listenFailure? c.bind with
  | some f => (.failure "" f, files)
  | none =>
    let cues := (if c.autostart then [Cue.start] else []) ++ [.pause]
    match cues.foldlM (fun p cue => (p.play cue).map (·.1)) p with
    | .error _ => (⟨101, "", ""⟩, files)
    | .ok p =>
      match p.desk.save p.census.inventory with
      | (desk, .ok ()) => (.success "", filesOf desk.store files)
      | (desk, .error e) => (.failure "" (e.failure c), filesOf desk.store files)

/-- **`runProgram m files args`** — the program started with arguments: how it ends, and the files
it leaves. -/
def runProgram (m : Machine) (files : Archive.Files) (args : List String) : Exit × Archive.Files :=
  match directive args with
  | .misuse => (.misuse, files)
  | .help => (.success helpText, files)
  | .version => (.success versionText, files)
  | .run i =>
    match i.configure files with
    | .error f => (.failure "" f, files)
    | .ok c =>
      match c.openService m.interfaces files m.now with
      | .error f => (.failure "" f, files)
      | .ok opened =>
        if i.once then runOnce m c files opened else runService m c files opened

/-! ## A service on a scripted network -/

/-- **`serve p autostart bind`** — a service that listens at `bind` and is interrupted as soon as
nothing is left to do: whether it stopped as it should, and the play at its end. -/
def serve (p : Play) (autostart : Bool) (bind : String) :
    Except Stop (Play × Except Failure Unit) := do
  let (p, _) ← if autostart then p.play .start else .ok (p, .nothing)
  match listenFailure? bind with
  | some f => return (p, .error f)
  | none =>
    let (p, _) ← p.play .pause
    match ← p.play .save with
    | (p, .saved (.error e)) => return (p, .error ⟨e.message, []⟩)
    | (p, _) => return (p, .ok ())

end LanCensus.Rehearsal
