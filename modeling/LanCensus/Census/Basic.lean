/-
# LanCensus.Census.Basic -- a running census

A census keeps an inventory, repeats sweeps when it is armed, and announces everything it does. Its
state holds the tasks that are under way, so that what happens in which order is left to whoever
lets the tasks take their turns: each turn is one of the functions of the modules beside this one.

Notices and pings are kept from the first one on, the latest in front.
-/

import LanCensus.Notice
import LanCensus.Probe
import LanCensus.Sweep.Basic
import LanCensus.Timer

namespace LanCensus

/-- **`Census`** — the state of a census. -/
structure Census where
  /-- The clock. -/
  now : Instant
  options : Sweep.Options
  inventory : Inventory
  /-- Whether sweeping has been started and not been paused since. -/
  armed : Bool
  /-- Whether a sweep is in progress. -/
  sweeping : Bool
  /-- How often the census has been paused. -/
  pauses : Nat
  /-- How many probes sweeps have dispatched. -/
  dispatched : Nat
  /-- When the next sweep is due. -/
  nextSweep : Option Instant
  /-- When the last sweep was completed. -/
  lastSweep : Option Instant
  timer : Option Timer
  /-- The sweeps that were ever asked for, the latest first. -/
  sweeps : List Sweep
  /-- The probes of sweeps that have not ended. -/
  probes : List Probe
  /-- The lookups that have not ended. -/
  lookups : List Lookup
  /-- A number that no sweep, probe or lookup has. -/
  fresh : Nat
  notices : List Notice
  /-- The addresses that were pinged, and how many milliseconds each ping waits. -/
  pings : List (Address × Nat)
  deriving DecidableEq, Repr

/-- **`Activity`** — what a census says that it is doing. -/
inductive Activity where
  | stopped
  | armed
  | sweeping
  deriving DecidableEq, Repr

/-- The written form of an activity. -/
def Activity.name : Activity → String
  | .stopped => "stopped"
  | .armed => "armed"
  | .sweeping => "sweeping"

namespace Census

/-- A census that has done nothing yet. -/
def initial (now : Instant) (options : Sweep.Options) (inventory : Inventory) : Census where
  now := now
  options := options
  inventory := inventory
  armed := false
  sweeping := false
  pauses := 0
  dispatched := 0
  nextSweep := none
  lastSweep := none
  timer := none
  sweeps := []
  probes := []
  lookups := []
  fresh := 0
  notices := []
  pings := []

/-- **`create`** — a new census, unless its options describe no sweep. -/
def create (now : Instant) (options : Sweep.Options) (inventory : Inventory) :
    Except Sweep.OptionsError Census := do
  options.check
  return initial now options inventory

/-- What the census is doing; a sweep in progress comes before anything else. -/
def activity (c : Census) : Activity :=
  if c.sweeping then .sweeping else if c.armed then .armed else .stopped

/-! ## Announcing -/

/-- Announces something. -/
def announce (c : Census) (n : Notice) : Census := { c with notices := n :: c.notices }

/-- Announces a progress message. -/
def report (c : Census) (message : String) : Census :=
  c.announce (.progress .info message c.now)

/-- Announces that something went wrong. -/
def complain (c : Census) (message : String) : Census :=
  c.announce (.progress .error message c.now)

/-- Announces a change of a device. -/
def tell (c : Census) (n : DeviceNotice) : Census := c.announce (.device n)

/-- Changes when the next sweep is due, and announces it if it is a change. -/
def setNextSweep (c : Census) (due : Option Instant) : Census :=
  if c.nextSweep = due then c
  else ({ c with nextSweep := due }).announce (.schedule (.nextSweep due))

/-! ## Sweeps by number -/

/-- The sweep with the given number. -/
def sweep? (c : Census) (id : Nat) : Option Sweep := c.sweeps.find? (·.id == id)

/-- The sweep takes the place of the one with its number. -/
def putSweep (c : Census) (s : Sweep) : Census :=
  { c with sweeps := c.sweeps.map fun t => if t.id = s.id then s else t }

/-- Asks for a sweep; its number is the one that was fresh before. -/
def requestSweep (c : Census) (pauses : Option Nat) : Census :=
  { c with sweeps := .queued c.fresh pauses c.options :: c.sweeps, fresh := c.fresh + 1 }

/-- Whether a probe that the sweep dispatched has not ended. -/
def hasProbes (c : Census) (s : Sweep) : Bool := c.probes.any (·.sweep == s.id)

end Census

end LanCensus
