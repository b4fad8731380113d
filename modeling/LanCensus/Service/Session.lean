/-
# LanCensus.Service.Session -- a client is served while the office is at work

Serving a client is a task of its own. It subscribes to the stream, copies the inventory, reads when the
next sweep is due and when the last one was completed, and tells the client all that, one message after
another. From then on it passes on whatever comes through the stream, and answers what the client sends.
Between any two of these the office goes on, so the copy may be newer than the subscription, and the
schedule newer than the copy.

The stream keeps the latest notices only. A task that has fallen too far behind learns how many it has
lost, and goes on with the oldest that is left.
-/

import LanCensus.Service.Client
import LanCensus.Service.Operation

namespace LanCensus.Service

/-- **`Stage`** — how far the task has come. -/
inductive Stage where
  | arrived
  /-- From here on the stream is kept for the client. -/
  | subscribed
  /-- The greeting names the devices. -/
  | copied (greeting : List Notice)
  /-- It also says when the next sweep is due. -/
  | dated (greeting : List Notice)
  /-- The greeting is being told; `left` is what is left of it. After that comes the stream. -/
  | telling (left : List Notice)
  deriving DecidableEq, Repr

/-- **`Session`** — a client, and the task that serves it. -/
structure Session where
  stage : Stage
  client : Client
  /-- How many notices of the stream were lost to the client. -/
  missed : Nat
  deriving DecidableEq, Repr

/-- **`Move`** — something that can happen to a session. -/
inductive Move where
  /-- The task goes on. -/
  | proceed
  /-- A frame of the client comes in. -/
  | frame (f : Frame)
  /-- The client is gone. -/
  | vanish
  deriving DecidableEq, Repr

namespace Session

/-- A client that has just arrived. -/
def arrived : Session := ⟨.arrived, ⟨0, [], true⟩, 0⟩

/-- The client is told something. -/
def tell (s : Session) (n : Notice) : Session := { s with client := s.client.deliver (.notice n) }

/-- So many notices of the stream have gone by. -/
def advance (s : Session) (n : Nat) : Session :=
  { s with client := { s.client with passed := s.client.passed + n } }

/-- **`hear s d`** — the next notice of the stream reaches the client, or the task learns that it has
lost some; nothing if there is none. -/
def hear (s : Session) (d : Desk) : Option Session :=
  let pending := unheard s.client.passed d.stream
  if lost pending = 0 then pending.head?.map fun n => (s.tell n).advance 1
  else some { s.advance (lost pending) with missed := s.missed + lost pending }

/-- **`proceed s b`** — what the task does next. -/
def proceed (s : Session) (b : Office) : Option Session :=
  match s.stage with
  | .arrived =>
    some { s with
      stage := .subscribed
      client := { s.client with passed := b.desk.stream.length } }
  | .subscribed =>
    some { s with stage := .copied (b.census.inventory.toList.map fun d => .device (.discovered d)) }
  | .copied ns => some { s with stage := .dated (ns ++ [.schedule (.nextSweep b.census.nextSweep)]) }
  | .dated ns =>
    some { s with
      stage := .telling
        (ns ++ b.census.lastSweep.toList.map fun t => .schedule (.sweepCompleted t)) }
  | .telling (n :: ns) => some { s.tell n with stage := .telling ns }
  | .telling [] => s.hear b.desk

/-- **`step s b m`** — the session after a move at the office `b`, unless it cannot be made now. Frames
are looked at when the greeting has been told. -/
def step (s : Session) (b : Office) : Move → Option Session
  | .proceed => if s.client.connected then s.proceed b else none
  | .frame f =>
    if s.client.connected && s.stage = .telling [] then some { s with client := s.client.accept f }
    else none
  | .vanish => some { s with client := s.client.vanish }

end Session

/-! ## Together -/

/-- **`Visit`** — an office at work, and the session of a client. -/
structure Visit where
  operation : Operation
  session : Session
  deriving DecidableEq, Repr

/-- **`Visit.Event`** — something that happens at the office or to the session. -/
inductive Visit.Event where
  | office (x : Happening)
  | session (m : Move)

namespace Visit

/-- The visit after something has happened, unless it cannot happen now. -/
def step (v : Visit) : Event → Option Visit
  | .office x => (v.operation.step x).map fun o => { v with operation := o }
  | .session m => (v.session.step v.operation.toOffice m).map fun s => { v with session := s }

end Visit

end LanCensus.Service
