/-
# LanCensus.Census.Probing -- the turns of a probe

A probe pings its address. A host that answers is identified and its record merged into the
inventory. A host that does not is marked offline if it is known; a miss never adds a record. Either
change is announced. A probe that fails beyond recovery changes nothing but gives its permit back.

A lookup probes a single address on demand. It reports what it finds to whoever asked and leaves
the inventory alone.
-/

import LanCensus.Census.Basic

namespace LanCensus.Census

/-! ## Probes of sweeps -/

/-- The probe with the given number. -/
def probe? (c : Census) (id : Nat) : Option Probe := c.probes.find? (·.id == id)

/-- **`ping c p`** — the first turn of a probe. -/
def ping (c : Census) (p : Probe) : Census :=
  { c with
    probes := c.probes.map fun q => if q.id = p.id then { q with begun := true } else q
    pings := (p.address, p.timeout) :: c.pings }

/-- The probe is over: its permit is free again, and the sweep counts it if it was answered. -/
def release (c : Census) (p : Probe) (answered : Bool) : Census :=
  { c with
    probes := c.probes.filter (·.id ≠ p.id)
    sweeps := c.sweeps.map fun s =>
      if s.id = p.sweep then
        { s with permits := s.permits + 1, answered := s.answered + answered.toNat }
      else s }

/-- The inventory after a host did not answer. -/
def miss (c : Census) (a : Address) : Census :=
  match c.inventory.find? a with
  | some known =>
    ({ c with inventory := c.inventory.offline a }).tell (.updated known.offline)
  | none => c

/-- The inventory after a host answered. -/
def meet (c : Census) (d : Device) : Census :=
  let stored := c.inventory.merged d
  let notice : DeviceNotice := if c.inventory.isNew d then .discovered stored else .updated stored
  ({ c with inventory := c.inventory.absorb d }).tell notice

/-- **`endProbe c p o`** — the last turn of a probe. -/
def endProbe (c : Census) (p : Probe) : Outcome → Census
  | .missed => (c.miss p.address).release p false
  | .found f => (c.meet (f.device p.address c.now)).release p true
  | .crashed => c.release p false

/-! ## Lookups -/

/-- **`beginLookup c text`** — pings the address that the text names, blanks around it ignored.
The lookup has the number that was fresh before. -/
def beginLookup (c : Census) (text : String) : Census :=
  match Address.parse? (Text.trim text.toList) with
  | none => c.complain s!"Invalid IP address: {text}"
  | some a =>
    let c := c.report s!"Scanning {a.text}"
    { c with
      lookups := ⟨c.fresh, a, c.inventory.find? a⟩ :: c.lookups
      fresh := c.fresh + 1
      pings := (a, c.options.pingTimeoutMillis.toNat) :: c.pings }

/-- The lookup with the given number. -/
def lookup? (c : Census) (id : Nat) : Option Lookup := c.lookups.find? (·.id == id)

/-- The record that a lookup finds: the known one with the result of the probe. -/
def Lookup.result (l : Lookup) (now : Instant) : Outcome → Option Device
  | .missed => some ((l.known.getD (Device.fresh l.address now)).offline)
  | .found f =>
    let probed := f.device l.address now
    some (l.known.elim probed (·.merge probed))
  | .crashed => none

/-- **`endLookup c l o`** — the last turn of a lookup. -/
def endLookup (c : Census) (l : Lookup) (o : Outcome) : Census :=
  let c := { c with lookups := c.lookups.filter (·.id ≠ l.id) }
  match Lookup.result l c.now o with
  | some d =>
    let state := if d.online then "online" else "offline"
    c.report s!"{d.display} is {state}"
  | none => c

end LanCensus.Census
