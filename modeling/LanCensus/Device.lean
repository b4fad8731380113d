/-
# LanCensus.Device -- what is known about a device

A device is known by its IPv4 address. Everything else about it comes from probes: a name, the
kind that a detector found, a hardware address, whether it answered the last probe, how fast, and
when it last answered.

A probe result is folded into a known record by `Device.merge`. What a probe could not find out
about the hardware address never replaces what was found out before, and the time a device was
last seen never goes back.
-/

import LanCensus.Net.Address
import LanCensus.Time.Instant

namespace LanCensus

/-- The text in place of an attribute that could not be found out. -/
def unknown : String := "Unknown"

/-- **`Device`** — the record of a device. -/
structure Device where
  address : Address
  name : String
  /-- The label that a detector gave the device. -/
  kind : String
  mac : String
  online : Bool
  lastSeen : Instant
  responseTime : Span
  deriving DecidableEq, Repr, Inhabited

namespace Device

/-- The name of a device whose name could not be found out. -/
def provisionalName (a : Address) : String := s!"DEVICE_{a.last.toNat}"

/-- A device of which nothing but its address is known. -/
def fresh (a : Address) (now : Instant) : Device where
  address := a
  name := provisionalName a
  kind := unknown
  mac := unknown
  online := false
  lastSeen := now
  responseTime := .zero

/-- A device that has just answered a probe. -/
def answering (a : Address) (now : Instant) (responseTime : Span) : Device :=
  { fresh a now with online := true, responseTime }

/-- Whether the hardware address is known. -/
def knowsMac (d : Device) : Bool := d.mac ≠ "" && d.mac ≠ unknown

/-- The record after a missed probe. -/
def offline (d : Device) : Device := { d with online := false, responseTime := .zero }

/-- The record of a device seen at `t`; an earlier time than the known one is ignored. -/
def seenAt (d : Device) (t : Instant) : Device := { d with lastSeen := d.lastSeen.later t }

/-- **`merge d probe`** — the record after a probe of the same address. -/
def merge (d probe : Device) : Device where
  address := d.address
  name := probe.name
  kind := probe.kind
  mac := if probe.knowsMac then probe.mac else d.mac
  online := probe.online
  lastSeen := d.lastSeen.later probe.lastSeen
  responseTime := if probe.online then probe.responseTime else .zero

/-- The device as messages mention it. -/
def display (d : Device) : String := s!"{d.name} ({d.address.text})"

end Device

end LanCensus
