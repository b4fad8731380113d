/-
# LanCensus.Notice -- what the census announces

Everything that happens to the inventory and to the schedule is announced. There are four kinds of
notices, each with its own listeners: progress messages, changes of devices, the beginning and
end of sweeps, and changes of the schedule.

A listener that folds the device notices over the inventory it started with, `Inventory.follow`, has
the inventory that they describe.
-/

import LanCensus.Device.Record
import LanCensus.Inventory

namespace LanCensus

/-- **`Severity`** — how serious a progress message is. -/
inductive Severity where
  | info
  | error
  deriving DecidableEq, Repr

/-- The written form of a severity. -/
def Severity.name : Severity → String
  | .info => "info"
  | .error => "error"

/-- **`DeviceNotice`** — a change of a device. -/
inductive DeviceNotice where
  /-- The address answered for the first time. -/
  | discovered (d : Device)
  /-- A known device was probed again. -/
  | updated (d : Device)
  /-- The device was taken out of the inventory. -/
  | removed (a : Address)
  deriving DecidableEq, Repr

/-- The address of the device that has changed. -/
def DeviceNotice.address : DeviceNotice → Address
  | .discovered d => d.address
  | .updated d => d.address
  | .removed a => a

/-- **`ScheduleNotice`** — a change of the schedule. -/
inductive ScheduleNotice where
  /-- When the next sweep is due, if one is. -/
  | nextSweep (due : Option Instant)
  /-- A sweep has been completed. -/
  | sweepCompleted (time : Instant)
  /-- The time left until the next sweep. -/
  | countdown (left : Span)
  deriving DecidableEq, Repr

/-- **`Notice`** — an announcement. -/
inductive Notice where
  | progress (level : Severity) (message : String) (time : Instant)
  | device (n : DeviceNotice)
  /-- A sweep begins (`true`) or ends (`false`). -/
  | sweeping (running : Bool)
  | schedule (n : ScheduleNotice)
  deriving DecidableEq, Repr

/-! ## Channels -/

namespace Notice

/-- The progress message of a notice. -/
def progress? : Notice → Option (Severity × String)
  | .progress level message _ => some (level, message)
  | _ => none

/-- The change of a device that a notice announces. -/
def device? : Notice → Option DeviceNotice
  | .device n => some n
  | _ => none

/-- The beginning or end of a sweep that a notice announces. -/
def sweeping? : Notice → Option Bool
  | .sweeping b => some b
  | _ => none

/-- The change of the schedule that a notice announces. -/
def schedule? : Notice → Option ScheduleNotice
  | .schedule n => some n
  | _ => none

end Notice

/-! ## Following the inventory -/

/-- The inventory after a change of a device. -/
def Inventory.apply (r : Inventory) : DeviceNotice → Inventory
  | .discovered d => r.store d
  | .updated d => r.store d
  | .removed a => r.remove a

/-- **`Inventory.follow r ns`** — the inventory that the device notices describe to one who knew `r`
before them. -/
def Inventory.follow (r : Inventory) (ns : List DeviceNotice) : Inventory :=
  ns.foldl Inventory.apply r

/-! ## JSON -/

/-- A value with its kind. -/
def tagged (kind : String) (data : Json) : Json := .object [("type", .string kind), ("data", data)]

/-- A time or null. -/
def optionalTime (t : Option Instant) : Json := Json.ofOption Instant.toJson t

/-- The JSON of a change of a device. -/
def DeviceNotice.toJson : DeviceNotice → Json
  | .discovered d => tagged "discovered" d.toJson
  | .updated d => tagged "updated" d.toJson
  | .removed a => tagged "removed" (.string a.text)

/-- The JSON of a change of the schedule. -/
def ScheduleNotice.toJson : ScheduleNotice → Json
  | .nextSweep t => tagged "next_scan" (optionalTime t)
  | .sweepCompleted t => tagged "last_scan_completed" t.toJson
  | .countdown left => tagged "countdown" (.ofNat left.seconds)

/-- **`toJson n`** — the JSON of a notice on its own channel. -/
def Notice.toJson : Notice → Json
  | .progress level message time =>
    .object [("level", .string level.name), ("message", .string message),
      ("timestamp", time.toJson)]
  | .device n => n.toJson
  | .sweeping b => .bool b
  | .schedule n => n.toJson

/-- **`toMessage n`** — the JSON of a notice as clients receive it, from all channels in one
stream. -/
def Notice.toMessage : Notice → Json
  | .progress level message _ =>
    tagged "progress" (.object [("level", .string level.name), ("message", .string message)])
  | .device (.discovered d) => tagged "device_discovered" d.toJson
  | .device (.updated d) => tagged "device_updated" d.toJson
  | .device (.removed a) => tagged "device_removed" (.object [("ip", .string a.text)])
  | .sweeping true => .object [("type", .string "scan_started")]
  | .sweeping false => .object [("type", .string "scan_completed")]
  | .schedule (.nextSweep t) => tagged "next_scan" (.object [("at", optionalTime t)])
  | .schedule (.sweepCompleted t) => tagged "last_scan_completed" (.object [("at", t.toJson)])
  | .schedule (.countdown left) =>
    tagged "countdown" (.object [("seconds", .ofNat left.seconds)])

end LanCensus
