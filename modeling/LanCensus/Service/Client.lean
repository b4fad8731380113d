/-
# LanCensus.Service.Client -- clients on a socket

A client that connects is told the inventory and the schedule, and after that everything that goes
through the stream, as far as it keeps up. It can ask for a sign of life, and it can close the
connection.
-/

import LanCensus.Service.Listener

namespace LanCensus.Service

/-- **`Frame`** — what a client sends. -/
inductive Frame where
  | text (s : String)
  | binary
  /-- A ping of the connection itself, with its content. -/
  | ping (content : String)
  | close
  deriving DecidableEq, Repr

/-- **`Delivery`** — what a client receives. -/
inductive Delivery where
  | notice (n : Notice)
  /-- The answer to a client that asks for a sign of life. -/
  | pong
  /-- The answer to a ping of the connection. -/
  | echo (content : String)
  | closed
  deriving DecidableEq, Repr

/-- **`Client`** — a connected client. -/
structure Client where
  /-- How many notices of the stream have gone by. -/
  passed : Nat
  /-- What it has received, the latest first. -/
  received : List Delivery
  /-- The connection is open. -/
  connected : Bool
  deriving DecidableEq, Repr

namespace Client

/-- What a client is told first. -/
def greeting (c : Census) : List Notice :=
  c.inventory.toList.map (fun d => .device (.discovered d))
    ++ [.schedule (.nextSweep c.nextSweep)]
    ++ c.lastSweep.toList.map fun t => .schedule (.sweepCompleted t)

/-- **`connect c d`** — a client that connects now. -/
def connect (c : Census) (d : Desk) : Client where
  passed := d.stream.length
  received := ((greeting c).map .notice).reverse
  connected := true

/-- The client receives something. -/
def deliver (cl : Client) (x : Delivery) : Client := { cl with received := x :: cl.received }

/-- **`catchUp cl d`** — the client receives what has gone through the stream. -/
def catchUp (cl : Client) (d : Desk) : Client :=
  if cl.connected then
    let pending := audible (unheard cl.passed d.stream)
    { cl with
      passed := d.stream.length
      received := (pending.map .notice).reverse ++ cl.received }
  else cl

/-- **`accept cl f`** — the service gets a frame from the client. -/
def accept (cl : Client) : Frame → Client
  | .text s => if s = "ping" then cl.deliver .pong else cl
  | .binary => cl
  | .ping content => cl.deliver (.echo content)
  | .close => { cl.deliver .closed with connected := false }

/-- The client is gone without a word. -/
def vanish (cl : Client) : Client := { cl with connected := false }

end Client

/-- The message that a delivery is written as. -/
def Delivery.toJson : Delivery → Json
  | .notice n => n.toMessage
  | .pong => .object [("type", .string "pong")]
  | .echo content => .object [("type", .string "pong_frame"), ("data", .string content)]
  | .closed => .object [("type", .string "closed")]

end LanCensus.Service
