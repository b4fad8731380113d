/-
# LanCensus.Census.Control -- starting, pausing and changing a census

What its owner can ask of a census at any time. Each request is one turn: nothing else happens
while it is carried out.

Pausing is cooperative. It counts up `pauses`, which every sweep and timer compares with the count
it began with, so a sweep in progress stops at its next address and lets its probes end.
-/

import LanCensus.Census.Basic

namespace LanCensus.Census

/-! ## Arming -/

/-- Drops the timer and the instant at which the next sweep is due. -/
def disarm (c : Census) : Census :=
  ({ c with armed := false, timer := none }).setNextSweep none

/-- A timer whose tasks have not had a turn. -/
def freshTimer (c : Census) : Timer where
  pauses := c.pauses
  alarm := .ringing
  tick := none
  ticking := true

/-- **`arm c message`** — starts sweeping, unless it has been started already: repeatedly, with a
timer, or once. -/
def arm (c : Census) (message : String) : Census :=
  if c.armed then c
  else
    let c := ({ c with armed := true }).report message
    if c.options.continuous then
      let c := c.setNextSweep none
      { c with timer := some c.freshTimer }
    else c.requestSweep (some c.pauses)

/-- Starts sweeping. -/
def start (c : Census) : Census := c.arm "Scanning started"

/-- Starts sweeping after a pause. -/
def resume (c : Census) : Census := c.arm "Scanning resumed"

/-- **`pause c`** — stops sweeping. -/
def pause (c : Census) : Census :=
  let paused := ({ c with pauses := c.pauses + 1 }).disarm
  if c.armed || c.sweeping then paused.report "Scanning paused" else paused

/-! ## Options -/

/-- **`setOptions c o`** — puts other options in force, if they describe a sweep. Without
continuous options nothing is armed. -/
def setOptions (c : Census) (o : Sweep.Options) : Except Sweep.OptionsError Census := do
  o.check
  let c := { c with options := o }
  if o.continuous then return c
  else if c.armed then return c.disarm.report "Continuous scanning disabled"
  else return c.disarm

/-! ## Devices -/

/-- **`remove c a`** — takes a device out of the inventory. -/
def remove (c : Census) (a : Address) : Census :=
  if (c.inventory.find? a).isSome then
    ({ c with inventory := c.inventory.remove a }).tell (.removed a)
  else c

end LanCensus.Census
