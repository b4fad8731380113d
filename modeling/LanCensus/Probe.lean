/-
# LanCensus.Probe -- probes of addresses

A probe pings an address and, if the host answers, finds out its name, its hardware address and
its kind. Sweeps dispatch probes for the addresses of a subnet, and a single device can be looked
up on demand.
-/

import LanCensus.Device

namespace LanCensus

/-- **`Finding`** — what a probe found out about a host that answered. -/
structure Finding where
  responseTime : Span
  name : Option String
  mac : Option String
  label : Option String
  deriving DecidableEq, Repr

/-- The record of a host that has just been identified. -/
def Finding.device (f : Finding) (a : Address) (now : Instant) : Device :=
  { Device.answering a now f.responseTime with
    name := f.name.getD (Device.provisionalName a)
    mac := f.mac.getD unknown
    kind := f.label.getD unknown }

/-- **`Outcome`** — how a probe ends. -/
inductive Outcome where
  /-- The host did not answer. -/
  | missed
  /-- The host answered and was identified. -/
  | found (f : Finding)
  /-- The probe failed beyond recovery. -/
  | crashed
  deriving DecidableEq, Repr

/-- **`Probe`** — a probe that a sweep has dispatched and that has not ended. -/
structure Probe where
  id : Nat
  /-- The sweep that dispatched it. -/
  sweep : Nat
  address : Address
  /-- How long it waits for an answer, in milliseconds. -/
  timeout : Nat
  /-- Whether the host has been pinged. -/
  begun : Bool
  deriving DecidableEq, Repr

/-- **`Lookup`** — a probe of a single device on demand. -/
structure Lookup where
  id : Nat
  address : Address
  /-- The record of the device when the lookup began. -/
  known : Option Device
  deriving DecidableEq, Repr

end LanCensus
