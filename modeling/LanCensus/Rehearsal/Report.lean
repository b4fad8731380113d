/-
# LanCensus.Rehearsal.Report -- what is seen of a rehearsal

After each cue the stage is looked at: how the census stands, and what has happened since it was
looked at last. What belongs to one address is listed in its order, but addresses that were probed
side by side are listed in ascending order, and a run of countdown notices is told in one item.
Lists without items are left out.
-/

import LanCensus.Rehearsal.Script

namespace LanCensus.Rehearsal

/-! ## Lists -/

/-- A list in ascending order of addresses; items of one address keep their order. -/
def byAddress {α : Type} (address : α → Address) (xs : List α) : List α :=
  xs.mergeSort fun x y => (address x).toNat ≤ (address y).toNat

/-- A member of an object, left out if it is an empty list. -/
def someItems (name : String) (items : List Json) : List (String × Json) :=
  if items.isEmpty then [] else [(name, .array items)]

/-- A run of countdown notices: the seconds of the first and the last, and how many they are. -/
def countdownRun (first last count : Nat) : Json :=
  .object [("type", .string "countdowns"), ("first", .ofNat first), ("last", .ofNat last),
    ("count", .ofNat count)]

/-- Notices of the schedule in JSON, written by `write` unless they count down. -/
def scheduleItems (write : ScheduleNotice → Json) (ns : List ScheduleNotice) : List Json :=
  go none ns
where
  /-- The items, while a run of countdowns may be open. -/
  go : Option (Nat × Nat × Nat) → List ScheduleNotice → List Json
    | run, [] => closing run
    | none, .countdown left :: rest => go (some (left.seconds, left.seconds, 1)) rest
    | some (first, _, count), .countdown left :: rest =>
      go (some (first, left.seconds, count + 1)) rest
    | run, n :: rest => closing run ++ write n :: go none rest
  /-- The item of a run that ends. -/
  closing : Option (Nat × Nat × Nat) → List Json
    | none => []
    | some (first, last, count) => [countdownRun first last count]

/-! ## The census -/

/-- How the census stands. -/
def standing (start : Instant) (c : Census) : List (String × Json) := [
  ("t", .ofNat (start.spanTo c.now).millis),
  ("state", .string c.activity.name),
  ("armed", .bool c.armed),
  ("sweeping", .bool c.sweeping),
  ("dispatched", .ofNat c.dispatched),
  ("next_scan", optionalTime c.nextSweep),
  ("last_scan", optionalTime c.lastSweep),
  ("roster", Device.listToJson c.inventory.toList)]

/-- Progress messages, and how many were lost before them. -/
def progressItems (missed : Nat) (ns : List Notice) : List Json :=
  (if missed = 0 then [] else [.object [("lagged", .ofNat missed)]])
    ++ (ns.filterMap Notice.progress?).map fun (level, message) =>
      .array [.string level.name, .string message]

/-- What has been announced. -/
def announced (missed : Nat) (ns : List Notice) : List (String × Json) :=
  someItems "progress" (progressItems missed ns)
    ++ someItems "scanning" ((ns.filterMap Notice.sweeping?).map .bool)
    ++ someItems "schedule" (scheduleItems ScheduleNotice.toJson (ns.filterMap Notice.schedule?))
    ++ someItems "devices"
      ((byAddress DeviceNotice.address (ns.filterMap Notice.device?)).map DeviceNotice.toJson)

/-- What was done on the network. -/
def probed (inFlight : Bool) (g : Stage) : List (String × Json) :=
  someItems "pings" (g.census.pings.reverse.map fun (a, millis) =>
      .array [.string a.text, .ofNat millis])
    ++ someItems "classified" ((byAddress (·.1) g.asked.reverse).map fun (a, detector) =>
      .array [.string a.text, .string detector])
    ++ if inFlight && !g.census.pings.isEmpty then [("max_in_flight", .ofNat g.mostInFlight)]
      else []

/-! ## The service -/

/-- What a client has received. -/
def receivedItems (cl : Service.Client) : Json :=
  let all := cl.received.reverse
  let ns := all.filterMap fun
    | .notice n => some n
    | _ => none
  let others := all.filterMap fun
    | .notice _ => none
    | x => some x.toJson
  let messages (select : Notice → Bool) := (ns.filter select).map Notice.toMessage
  .object (someItems "devices"
      ((byAddress DeviceNotice.address (ns.filterMap Notice.device?)).map fun n =>
        (Notice.device n).toMessage)
    ++ someItems "progress" (messages (·.progress?.isSome))
    ++ someItems "scanning" (messages (·.sweeping?.isSome))
    ++ someItems "schedule"
      (scheduleItems (fun n => (Notice.schedule n).toMessage) (ns.filterMap Notice.schedule?))
    ++ someItems "other" others)

/-- What the service keeps. -/
def kept (g : Stage) : List (String × Json) :=
  [("saves", .ofNat g.desk.saves),
    ("settings", g.desk.settings.toJson),
    ("stored_devices", Device.listToJson (g.desk.store.readDevices.toOption.getD [])),
    ("stored_settings", (g.desk.store.readSettings.toOption.getD .empty).toJson)]
    ++ someItems "ws" (g.clients.map receivedItems)

/-! ## Replies -/

/-- A response in JSON. -/
def responseJson (r : Service.Response) : Json :=
  .object [
    ("status", .ofNat r.status),
    ("headers", .object (r.headers.map fun (name, value) => (name, .string value))),
    ("body",
      match r.body with
      | .json v => v
      | .text s => .object [("text", .string s)])]

/-- An error in JSON. -/
def errorJson (kind message : String) : Json :=
  .object [("error", .string kind), ("message", .string message)]

/-- A reply in JSON. -/
def Reply.toJson : Reply → Json
  | .nothing => .null
  | .count n => .ofNat n
  | .counts ns => .array (ns.map (Json.ofOption .ofNat))
  | .device d => Json.ofOption Device.toJson d
  | .options (.ok ()) now => .object [("result", .string "ok"), ("now", now.toJson)]
  | .options (.error e) now =>
    .object [("result", errorJson e.name e.message), ("now", now.toJson)]
  | .stored d isNew => .array [d.toJson, .bool isNew]
  | .shown text detectors =>
    .object [("debug", .string text), ("detectors", .array (detectors.map .string))]
  | .response r => responseJson r
  | .saved (.ok ()) => .string "ok"
  | .saved (.error e) => errorJson "persist" e.message
  | .flag b => .bool b

/-! ## The whole rehearsal -/

/-- **`Scope`** — how much of a rehearsal is looked at. -/
structure Scope where
  start : Instant
  /-- The number of pings in flight is looked at. -/
  inFlight : Bool
  /-- The service around the census is looked at. -/
  service : Bool
  deriving Repr

/-- What is seen of the stage. -/
def observation (scope : Scope) (g : Stage) : List (String × Json) :=
  standing scope.start g.census ++ announced g.missed g.heard.reverse ++ probed scope.inFlight g
    ++ if scope.service then kept g else []

/-- The play after somebody has looked at it. -/
def Play.lookedAt (p : Play) : Play :=
  { p with
    census := { p.census with pings := [] }
    desk := { p.desk with saves := 0 }
    clients := p.clients.map fun cl => { cl with received := [] }
    mostInFlight := 0
    asked := []
    heard := []
    missed := 0 }

/-- What is seen after each cue, with the replies. -/
def observations (scope : Scope) : Play → List Cue → Except Stop (List Json)
  | _, [] => .ok []
  | p, cue :: rest => do
    let (p, reply) ← p.play cue
    let seen := Json.object (("result", reply.toJson) :: observation scope p.toStage)
    return seen :: (← observations scope p.lookedAt rest)

/-- **`rehearse scope p cues`** — what is seen of a play before its first cue and after each. -/
def rehearse (scope : Scope) (p : Play) (cues : List Cue) : Except Stop (List Json) := do
  let seen := Json.object (observation scope p.toStage)
  return seen :: (← observations scope p.lookedAt cues)

/-- The name of a reason why a rehearsal cannot go on. -/
def Stop.name : Stop → String
  | .crashed => "panic"
  | .malformed => "bad_request"

end LanCensus.Rehearsal
