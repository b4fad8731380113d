/-
# LanCensus.Census.Run -- all that can happen to a census

A census is driven by requests of its owner, by turns of its tasks and by the clock. Which of them
comes next is open: a task waits for another only where the functions of the modules beside this
one say so. A run is any sequence of turns each of which can be taken when it comes.
-/

import LanCensus.Census.Control
import LanCensus.Census.Probing
import LanCensus.Census.Sweeping
import LanCensus.Census.Timing

namespace LanCensus

/-! ## Turns -/

/-- **`Turn`** — something that can happen to a census. -/
inductive Turn where
  /-- Its owner starts sweeping. -/
  | start
  /-- Its owner starts sweeping after a pause. -/
  | resume
  /-- Its owner stops sweeping. -/
  | pause
  /-- Its owner wants other options; nothing happens if they describe no sweep. -/
  | setOptions (o : Sweep.Options)
  /-- Its owner takes a device out of the inventory. -/
  | remove (a : Address)
  /-- Its owner asks for a sweep. -/
  | requestSweep
  /-- Its owner asks about the address that a text names. -/
  | lookUp (text : String)
  /-- A sweep that was asked for begins. -/
  | embark (sweep : Nat)
  /-- A sweep is told the names of the subnets, or why there is no list. -/
  | list (sweep : Nat) (names : Except SubnetError (List String))
  /-- Asking for the subnets fails beyond recovery, and the sweep with it. -/
  | collapse (sweep : Nat)
  /-- A sweep goes on with dispatching, or ends. -/
  | proceed (sweep : Nat)
  /-- A probe pings its address. -/
  | ping (probe : Nat)
  /-- A probe ends. -/
  | endProbe (probe : Nat) (o : Outcome)
  /-- A lookup ends. -/
  | endLookup (lookup : Nat) (o : Outcome)
  /-- The task of the timer that repeats sweeps goes on. -/
  | alarm
  /-- The countdown ticks. -/
  | tick
  /-- The clock moves on. -/
  | pass (t : Instant)

namespace Census

/-- What becomes of a sweep that has asked for the subnets. -/
def settleListing (c : Census) (sweep : Nat) (f : Sweep → Census) : Option Census := do
  let s ← c.sweep? sweep
  if s.phase = .listing then some (f s) else none

/-- **`take c t`** — the census after a turn, unless the turn cannot be taken now. -/
def take (c : Census) : Turn → Option Census
  | .start => some c.start
  | .resume => some c.resume
  | .pause => some c.pause
  | .setOptions o => some ((c.setOptions o).toOption.getD c)
  | .remove a => some (c.remove a)
  | .requestSweep => some (c.requestSweep none)
  | .lookUp text => some (c.beginLookup text)
  | .embark sweep => do
    let s ← c.sweep? sweep
    match s.phase with
    | .queued _ => some (c.embark s)
    | _ => none
  | .list sweep (.ok names) => c.settleListing sweep fun s => c.listed s names
  | .list sweep (.error e) => c.settleListing sweep fun s => c.unlisted s e
  | .collapse sweep => c.settleListing sweep c.crash
  | .proceed sweep => (c.sweep? sweep).bind c.proceed
  | .ping probe => do
    let p ← c.probe? probe
    if p.begun then none else some (c.ping p)
  | .endProbe probe o => do
    let p ← c.probe? probe
    if p.begun then some (c.endProbe p o) else none
  | .endLookup lookup o => (c.lookup? lookup).map fun l => c.endLookup l o
  | .alarm => c.timerTurn
  | .tick => c.tickTurn
  | .pass t => if c.now ≤ t then some { c with now := t } else none

/-! ## Runs -/

/-- **`Reaches c d`** — a run leads from `c` to `d`. -/
inductive Reaches (c : Census) : Census → Prop where
  | refl : Reaches c c
  | step {d e : Census} {t : Turn} : Reaches c d → d.take t = some e → Reaches c e

end Census

end LanCensus
