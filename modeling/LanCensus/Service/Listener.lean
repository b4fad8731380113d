/-
# LanCensus.Service.Listener -- listeners that fall behind

Each kind of notice has a channel of its own, and a channel keeps the latest 256 notices. A
listener that has fallen further behind has lost the oldest.
-/

import LanCensus.Service.Desk

namespace LanCensus.Service

/-- How many notices a channel keeps. -/
def channelCapacity : Nat := 256

/-- How many of the notices that a listener has not heard yet are lost to it. -/
def lost {α : Type} (pending : List α) : Nat := pending.length - channelCapacity

/-- The notices that a listener can still hear, out of those it has not heard yet, oldest first. -/
def audible {α : Type} (pending : List α) : List α := pending.drop (lost pending)

/-- **`Channel`** — the kinds of notices. -/
inductive Channel where
  | progress
  | device
  | sweeping
  | schedule
  deriving DecidableEq, Repr

/-- The channel of a notice. -/
def Channel.of : Notice → Channel
  | .progress .. => .progress
  | .device _ => .device
  | .sweeping _ => .sweeping
  | .schedule _ => .schedule

/-- All channels. -/
def Channel.all : List Channel := [.progress, .device, .sweeping, .schedule]

/-- The notices on one channel. -/
def Channel.select (k : Channel) (ns : List Notice) : List Notice := ns.filter (Channel.of · = k)

/-- What a listener to all channels has lost. -/
def lostOverall (pending : List Notice) : Nat :=
  Channel.all.foldl (fun n k => n + lost (k.select pending)) 0

/-- What a listener to all channels can still hear. If it has lost nothing it hears the notices in
their order, otherwise one channel after another. -/
def audibleOverall (pending : List Notice) : List Notice :=
  if lostOverall pending = 0 then pending
  else Channel.all.flatMap fun k => audible (k.select pending)

/-- **`unheard known ns`** — what has been announced beyond the first `known` notices, oldest
first. -/
def unheard (known : Nat) (latestFirst : List Notice) : List Notice :=
  (latestFirst.take (latestFirst.length - known)).reverse

/-- **`catchUp d c`** — forwards whatever the census has announced since the last time. -/
def Desk.catchUp (d : Desk) (c : Census) : Desk :=
  let d' := (audibleOverall (unheard d.forwarded c.notices)).foldl
    (fun d n => d.forward c.inventory n) d
  { d' with forwarded := c.notices.length }

end LanCensus.Service
