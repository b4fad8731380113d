/-
# LanCensus.Census.Timing -- the turns of the timer

The alarm of the timer rings when the next sweep is due, and at once if nothing is known to be
due. Then the timer asks for a sweep, unless one is in progress, and follows it to its end. If
nothing is due later by then, the next sweep is due one interval from now.

The countdown ticks every second and tells how much time is left, if a sweep is due at all.
-/

import LanCensus.Census.Basic

namespace LanCensus.Census

/-- The census with other state of its timer. -/
def putTimer (c : Census) (t : Timer) : Census := { c with timer := some t }

/-! ## The alarm -/

/-- Whether nothing is due after now. -/
def nothingAhead (c : Census) : Bool :=
  match c.nextSweep with
  | none => true
  | some due => due ≤ c.now

/-- Makes sure that a sweep is due later. -/
def planAhead (c : Census) : Census :=
  if c.nothingAhead then c.setNextSweep (some (dueAfter c.now c.options.interval)) else c

/-- The timer's turn when its alarm rings. -/
def ring (c : Census) (t : Timer) : Census :=
  if c.pauses ≠ t.pauses then c.putTimer { t with alarm := .off }
  else if !c.nothingAhead then c.putTimer { t with alarm := .set (c.nextSweep.getD c.now) }
  else if c.sweeping then c.planAhead.putTimer { t with alarm := .ringing }
  else (c.requestSweep (some t.pauses)).putTimer { t with alarm := .following c.fresh }

/-- **`timerTurn c`** — a turn of the task that repeats sweeps; nothing if it has to wait. -/
def timerTurn (c : Census) : Option Census := do
  let t ← c.timer
  match t.alarm with
  | .ringing => some (c.ring t)
  | .set wake => if wake ≤ c.now then some (c.putTimer { t with alarm := .ringing }) else none
  | .following id =>
    if (c.sweep? id).all (·.phase.isOver) then
      some (c.planAhead.putTimer { t with alarm := .ringing })
    else none
  | .off => none

/-! ## The countdown -/

/-- Tells how much time is left until the next sweep. -/
def countDown (c : Census) : Census :=
  match c.nextSweep with
  | some due => c.announce (.schedule (.countdown (c.now.spanTo due)))
  | none => c

/-- **`tickTurn c`** — a tick of the countdown; nothing if none is due. -/
def tickTurn (c : Census) : Option Census := do
  let t ← c.timer
  let due := t.tick.getD c.now
  if !t.ticking || c.now < due then none
  else if c.pauses ≠ t.pauses then some (c.putTimer { t with ticking := false })
  else some (c.countDown.putTimer { t with tick := some (Timer.nextTick due c.now) })

end LanCensus.Census
