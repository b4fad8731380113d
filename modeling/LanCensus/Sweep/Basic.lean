/-
# LanCensus.Sweep.Basic -- a sweep and where it stands

A sweep asks for the subnets, marks every device offline, and probes each address of each subnet,
with a bounded number of probes in flight. This module holds what a sweep keeps between its turns.
It gives up its turn only where it really waits, and its phase says what for.
-/

import LanCensus.Device
import LanCensus.Sweep.Options

namespace LanCensus

namespace Sweep

/-- **`Phase`** — where a sweep stands. -/
inductive Phase where
  /-- It has been asked for and has not begun. On behalf of a timer it knows how many pauses there
  had been when the timer was started. -/
  | queued (pauses : Option Nat)
  /-- It waits for the names of the subnets. -/
  | listing
  /-- It is about to turn to its next address. -/
  | ready
  /-- It waits for a permit to probe its next address. -/
  | waiting
  /-- It rests after a batch of probes. -/
  | resting (wake : Instant)
  /-- It dispatches no more and waits for the probes it has dispatched. -/
  | draining
  /-- It has ended, and this was the inventory. -/
  | ended (inventory : List Device)
  /-- It has failed beyond recovery. -/
  | crashed
  deriving DecidableEq, Repr

/-- Whether the sweep is over. -/
def Phase.isOver : Phase → Bool
  | .ended _ | .crashed => true
  | _ => false

/-- **`Target`** — an address to probe and the name of its subnet. -/
structure Target where
  subnet : String
  address : Address
  deriving DecidableEq, Repr

end Sweep

/-- **`Sweep`** — a sweep that has been asked for. -/
structure Sweep where
  id : Nat
  phase : Sweep.Phase
  /-- The number of pauses when the sweep was asked for. A pause since then stops it. -/
  pauses : Nat
  /-- The options when the sweep began. -/
  options : Sweep.Options
  /-- The addresses it has not turned to yet. -/
  targets : List Sweep.Target
  /-- The number of addresses it set out to probe. -/
  total : Nat
  /-- Permits that are free; each probe in flight holds one. -/
  permits : Nat
  /-- How many probes it has dispatched. -/
  dispatched : Nat
  /-- How many of its probes were answered. -/
  answered : Nat
  deriving DecidableEq, Repr

/-- A sweep before its first turn. -/
def Sweep.queued (id : Nat) (pauses : Option Nat) (options : Sweep.Options) : Sweep where
  id := id
  phase := .queued pauses
  pauses := pauses.getD 0
  options := options
  targets := []
  total := 0
  permits := 0
  dispatched := 0
  answered := 0

end LanCensus
