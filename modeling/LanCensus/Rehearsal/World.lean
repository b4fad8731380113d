/-
# LanCensus.Rehearsal.World -- a scripted network

A rehearsal runs a census against a network that is made up: which hosts there are and how fast
they answer, what the list of subnets says, and what detectors know. Whatever takes time takes a
scripted number of milliseconds.
-/

import LanCensus.Detect.Cascade
import LanCensus.Net.AddressMap
import LanCensus.Time.Instant

namespace LanCensus.Rehearsal

/-- **`Host`** — a scripted host. -/
structure Host where
  responseTime : Span
  /-- How many milliseconds a ping of it takes. -/
  delay : Nat
  /-- It does not answer. -/
  down : Bool
  /-- A ping of it fails beyond recovery. -/
  crashes : Bool
  name : Option String
  mac : Option String
  deriving Repr

/-- **`Listing`** — the scripted list of subnets. -/
structure Listing where
  names : List String
  /-- Why there is no list. -/
  failure : Option String
  /-- Asking for it fails beyond recovery. -/
  crashes : Bool
  /-- How many milliseconds it takes. -/
  delay : Nat
  deriving Repr

/-- **`Oracle`** — a scripted detector. -/
structure Oracle where
  name : String
  priority : Int
  /-- What it answers, by the text of the address; a star stands for all others. -/
  labels : List (String × Option String)
  /-- How many milliseconds it takes. -/
  delay : Nat
  deriving Repr

/-- What the detector answers. -/
def Oracle.answer (o : Oracle) (a : Address) : Option String :=
  match o.labels.lookup a.text with
  | some label => label
  | none => (o.labels.lookup "*").join

/-- **`World`** — the scripted network. -/
structure World where
  hosts : AddressMap Host
  /-- How many milliseconds a ping takes where no host is. -/
  missDelay : Nat
  listing : Listing
  /-- The detectors in the order in which they are asked. -/
  oracles : List Oracle

namespace World

/-- How many milliseconds a ping of the address takes. -/
def pingDelay (w : World) (a : Address) : Nat := ((w.hosts.get? a).map (·.delay)).getD w.missDelay

/-- The name that a reverse lookup gives the address. -/
def nameOf (w : World) (a : Address) : Option String := (w.hosts.get? a).bind (·.name)

/-- The hardware address in the neighbour table. -/
def macOf (w : World) (a : Address) : Option String := (w.hosts.get? a).bind (·.mac)

end World

end LanCensus.Rehearsal
