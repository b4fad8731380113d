/-
# LanCensus.Rehearsal.Script -- cues and what comes of them

A script is a list of cues. Some cues only change the scripted network; others ask something of
the census or of the service around it. A cue that waits for a sweep or a lookup lets time pass
until that is over. After every cue all tasks run until nothing can happen without time passing;
the reply to the cue is taken before that.
-/

import LanCensus.Rehearsal.Stage

namespace LanCensus.Rehearsal

/-- **`Cue`** — something that happens in a rehearsal. -/
inductive Cue where
  /-- A sweep runs to its end. -/
  | sweep
  /-- A sweep begins, and nobody waits for it. -/
  | sweepAside
  /-- All sweeps that nobody has waited for come to their end. -/
  | join
  /-- Time passes. -/
  | advance (millis : Nat)
  | start
  | resume
  | pause
  /-- An address is looked up. -/
  | lookUp (text : String)
  | setOptions (o : Sweep.Options)
  | remove (a : Address)
  /-- A record goes into the inventory behind the census's back. -/
  | absorb (d : Device)
  /-- A host comes, changes or goes. -/
  | putHost (a : Address) (host : Option Host)
  /-- The list of subnets changes. -/
  | putListing (l : Listing)
  /-- The census is shown to a developer. -/
  | display
  /-- Progress messages come all at once. -/
  | emit (count : Nat)
  /-- Countdown notices go through the stream to the clients, all at once. -/
  | publish (count : Nat)
  /-- A request comes; nothing if it is not well formed. -/
  | request (r : Option Service.Request)
  | save
  /-- Calls of the store fail from now on. -/
  | spoil (calls : List Service.StoreCall)
  /-- A client connects. One that vanishes at once is not counted. -/
  | connect (vanishes : Bool)
  | vanish (client : Nat)
  | send (client : Nat) (frame : Service.Frame)

/-- **`Reply`** — what comes of a cue. -/
inductive Reply where
  | nothing
  | count (n : Nat)
  /-- The sizes of inventories; nothing for a sweep that failed beyond recovery. -/
  | counts (ns : List (Option Nat))
  | device (d : Option Device)
  | options (result : Except Sweep.OptionsError Unit) (now : Sweep.Options)
  /-- A record and whether its address is new. -/
  | stored (d : Device) (isNew : Bool)
  | shown (text : String) (detectors : List String)
  | response (r : Service.Response)
  | saved (result : Except Service.SaveError Unit)
  | flag (b : Bool)

/-- **`Stop`** — why a rehearsal cannot go on. -/
inductive Stop where
  /-- What a cue waited for has failed beyond recovery. -/
  | crashed
  /-- A request was not well formed. -/
  | malformed
  deriving DecidableEq, Repr

/-- **`Play`** — a stage and the sweeps that nobody has waited for. -/
structure Play extends Stage where
  aside : List Nat

namespace Stage

/-! ## Waiting -/

/-- Takes turns until there is an outcome. -/
def waitWith {α : Type} (outcome : Stage → Option α) : Nat → Stage → Option (Stage × α)
  | 0, _ => none
  | fuel + 1, g =>
    match outcome g with
    | some x => some (g, x)
    | none =>
      match g.turn with
      | some g => waitWith outcome fuel g
      | none => none

/-- **`passUntil outcome g`** — takes turns until there is an outcome, and passes time if need
be. -/
def passUntil {α : Type} (outcome : Stage → Option α) (g : Stage) : Option (Stage × α) :=
  waitWith outcome plenty g

/-- The end of a sweep: the inventory, or nothing if the sweep failed beyond recovery. -/
def endOfSweep (id : Nat) (g : Stage) : Option (Option (List Device)) :=
  match (g.census.sweep? id).map Sweep.phase with
  | some (.ended inventory) => some (some inventory)
  | some .crashed => some none
  | _ => none

/-- The end of a lookup: the record, or nothing if the lookup failed beyond recovery. -/
def endOfLookup (id : Nat) (g : Stage) : Option (Option Device) := g.found.lookup id

/-- Waits for the end of a sweep. -/
def finishSweep (g : Stage) (id : Nat) : Except Stop (Stage × List Device) :=
  match g.passUntil (endOfSweep id) with
  | some (g, some inventory) => .ok (g, inventory)
  | _ => .error .crashed

/-- Waits for the end of a lookup. -/
def finishLookup (g : Stage) (id : Nat) : Except Stop (Stage × Device) :=
  match g.passUntil (endOfLookup id) with
  | some (g, some d) => .ok (g, d)
  | _ => .error .crashed

/-- Waits for the ends of sweeps. -/
def joinAll (g : Stage) : List Nat → Stage × List (Option Nat)
  | [] => (g, [])
  | id :: rest =>
    match g.passUntil (endOfSweep id) with
    | some (g, inventory) =>
      let (g, sizes) := g.joinAll rest
      (g, inventory.map List.length :: sizes)
    | none => (g, [])

/-! ## Asking the census -/

/-- The stage with another census. -/
def withCensus (g : Stage) (census : Census) : Stage := { g with census }

/-- A sweep is asked for. -/
def requestSweep (g : Stage) : Stage :=
  (g.take .requestSweep).push (.sweep g.census.fresh)

/-- Sees to it that what has been started by arming has its turn. -/
def begin (before : Census) (g : Stage) : Stage :=
  if before.armed || !g.census.armed then g
  else if g.census.timer.isSome then (g.push .timer).push .tick
  else g.push (.sweep before.fresh)

/-- Begins to look an address up. -/
def beginLookup (g : Stage) (text : String) : Stage × Option Nat :=
  let id := g.census.fresh
  let g := g.take (.lookUp text)
  match g.census.lookup? id with
  | some l => (g.ping (.lookup id) l.address, some id)
  | none => (g, none)

/-- Handles a request and waits for its answer. -/
def request (g : Stage) (r : Service.Request) : Except Stop (Stage × Service.Response) := do
  let detectors := g.world.oracles.map (·.name)
  let before := g.census
  let (office, handling) := g.toOffice.handle detectors r
  let g := begin before { g with toOffice := office }
  match handling with
  | .answer response => return (g, Service.Office.finish r response)
  | .afterSweep id =>
    let (g, inventory) ← (g.push (.sweep id)).finishSweep id
    return (g, Service.Office.finish r (Service.Office.swept inventory))
  | .afterLookup id =>
    let g := ((g.census.lookup? id).map fun l => g.ping (.lookup id) l.address).getD g
    let (g, d) ← g.finishLookup id
    let (office, response) := g.toOffice.probed d
    return ({ g with toOffice := office }, Service.Office.finish r response)

/-- Lets time pass up to an instant. -/
def advanceWith : Nat → Instant → Stage → Stage
  | 0, _, g => g
  | fuel + 1, limit, g =>
    match g.dueBy limit with
    | some t => advanceWith fuel limit (g.wake t).settle
    | none => g.passTo limit

/-- **`advance g millis`** — lets time pass; whatever is due by then happens. -/
def advance (g : Stage) (millis : Nat) : Stage :=
  let g := g.settle
  advanceWith plenty (g.after millis) g

/-- The census as it is shown to a developer. -/
def displayed (g : Stage) : String :=
  let state :=
    match g.census.activity with
    | .stopped => "Stopped"
    | .armed => "Armed"
    | .sweeping => "Sweeping"
  "NetworkScanner \x7b state: " ++ state ++ ", chain: "
    ++ Detect.showCascade (g.world.oracles.map (·.name)) ++ " \x7d"

/-- The client with the given number, changed. -/
def changeClient (g : Stage) (i : Nat) (f : Service.Client → Service.Client) : Stage :=
  { g with clients := g.clients.modify i f }

end Stage

namespace Play

/-- The play before its first cue, when everything that can happen has happened. -/
def initial (office : Service.Office) (world : World) : Play :=
  { Stage.initial office world with aside := [] }

/-- The play on another stage. -/
def withStage (p : Play) (g : Stage) : Play := { p with toStage := g }

/-- Carries out a cue. -/
def follow (p : Play) : Cue → Except Stop (Play × Reply)
  | .sweep => do
    let (g, inventory) ← p.requestSweep.finishSweep p.census.fresh
    return (p.withStage g, .count inventory.length)
  | .sweepAside =>
    .ok ({ p.withStage p.requestSweep with aside := p.aside ++ [p.census.fresh] }, .nothing)
  | .join =>
    let (g, sizes) := p.joinAll p.aside
    .ok ({ p.withStage g with aside := [] }, .counts sizes)
  | .advance millis => .ok (p.withStage (p.toStage.advance millis), .nothing)
  | .start =>
    .ok (p.withStage (.begin p.census (p.take .start)), .nothing)
  | .resume =>
    .ok (p.withStage (.begin p.census (p.take .resume)), .nothing)
  | .pause => .ok (p.withStage (p.take .pause), .nothing)
  | .lookUp text =>
    match p.beginLookup text with
    | (g, none) => .ok (p.withStage g, .device none)
    | (g, some id) => do
      let (g, d) ← g.finishLookup id
      return (p.withStage g, .device (some d))
  | .setOptions o =>
    match p.census.setOptions o with
    | .ok census => .ok (p.withStage (p.withCensus census), .options (.ok ()) census.options)
    | .error e => .ok (p, .options (.error e) p.census.options)
  | .remove a =>
    let removed := p.census.inventory.find? a
    .ok (p.withStage (p.take (.remove a)), .device removed)
  | .absorb d =>
    let inventory := p.census.inventory
    .ok (p.withStage (p.withCensus { p.census with inventory := inventory.absorb d }),
      .stored (inventory.merged d) (inventory.isNew d))
  | .putHost a host =>
    let hosts := host.elim (p.world.hosts.erase a) (p.world.hosts.insert a)
    .ok (p.withStage { p.toStage with world := { p.world with hosts } }, .nothing)
  | .putListing listing =>
    .ok (p.withStage { p.toStage with world := { p.world with listing } }, .nothing)
  | .display => .ok (p, .shown p.displayed (p.world.oracles.map (·.name)))
  | .emit count =>
    let census := (List.range count).foldl (fun c i => c.report s!"message {i}") p.census
    .ok (p.withStage (p.withCensus census), .nothing)
  | .publish count =>
    let desk := (List.range count).foldl
      (fun d i => d.pass (.schedule (.countdown (.ofSeconds i)))) p.desk
    .ok (p.withStage { p.toStage with desk }, .nothing)
  | .request none => .error .malformed
  | .request (some r) => do
    let (g, response) ← p.toStage.request r
    return (p.withStage g, .response response)
  | .save =>
    let (desk, result) := p.desk.save p.census.inventory
    .ok (p.withStage { p.toStage with desk }, .saved result)
  | .spoil calls =>
    .ok (p.withStage { p.toStage with desk := { p.desk with broken := calls } }, .nothing)
  | .connect vanishes =>
    let client := Service.Client.connect p.census p.desk
    let clients := if vanishes then p.clients else p.clients ++ [client]
    .ok (p.withStage { p.toStage with clients }, .count 101)
  | .vanish i =>
    .ok (p.withStage (p.changeClient i (·.vanish)), .flag ((p.clients[i]?).any (·.connected)))
  | .send i frame =>
    .ok (p.withStage (p.changeClient i fun cl => if cl.connected then cl.accept frame else cl),
      .flag ((p.clients[i]?).any (·.connected)))

/-- **`play p cue`** — carries out a cue, and lets everything happen that can happen then. -/
def play (p : Play) (cue : Cue) : Except Stop (Play × Reply) := do
  let (p, reply) ← p.follow cue
  return (p.withStage p.toStage.attend.settle, reply)

end Play

end LanCensus.Rehearsal
