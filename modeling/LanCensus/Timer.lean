/-
# LanCensus.Timer -- the timer that repeats sweeps

An armed census with continuous options has a timer. It has two tasks: one starts a sweep, waits
for its end and then for the instant at which the next is due; the other ticks every second and
tells how much time is left. Pausing drops the timer; the sweep that it has started goes on
without it.
-/

import LanCensus.Time.Instant

namespace LanCensus

/-- **`Alarm`** — what the task that repeats sweeps waits for. -/
inductive Alarm where
  /-- Nothing; it is its turn. -/
  | ringing
  /-- An instant. -/
  | set (wake : Instant)
  /-- The end of the sweep that it has asked for. -/
  | following (sweep : Nat)
  /-- It has stopped for good. -/
  | off
  deriving DecidableEq, Repr

/-- **`Timer`** — the two tasks of an armed census with continuous options: one repeats sweeps,
the other counts down to the next. They live and die together. -/
structure Timer where
  /-- The number of pauses when the timer was started. -/
  pauses : Nat
  alarm : Alarm
  /-- When the next tick of the countdown is due; none before its first. -/
  tick : Option Instant
  /-- Whether the countdown still ticks. -/
  ticking : Bool
  deriving DecidableEq, Repr

/-- The time between two ticks of the countdown. -/
def Timer.tickSpan : Span := .ofSeconds 1

/-- The first tick after `now` of a countdown that had a tick due at `due`. Ticks that were missed
are left out. -/
def Timer.nextTick (due now : Instant) : Instant :=
  let late := (due.spanTo now).nanos / Timer.tickSpan.nanos
  due.plus ⟨(late + 1) * Timer.tickSpan.nanos⟩

end LanCensus
