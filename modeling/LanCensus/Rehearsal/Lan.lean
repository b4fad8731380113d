/-
# LanCensus.Rehearsal.Lan -- a scripted local network

What detectors meet when they try ports, read greetings, search and fetch: servers at the ports of
hosts, hosts that neither accept nor refuse, and devices that reply to each search. Without such a
network nothing can be reached at all.
-/

import LanCensus.Detect.OpenPorts
import LanCensus.Detect.SshGreeting
import LanCensus.Detect.Upnp
import LanCensus.Net.Fetch

namespace LanCensus.Rehearsal

open Detect

/-- **`Server`** — a scripted server. -/
inductive Server where
  /-- It answers requests, by their targets. -/
  | pages (replies : List (String × HttpReply))
  /-- It sends pieces as soon as somebody connects; then it ends or keeps silent. -/
  | greeter (pieces : List (List UInt8)) (ends : Bool)

/-- **`Lan`** — a scripted local network. -/
structure Lan where
  servers : List (Endpoint × Server)
  /-- Where attempts to connect are not answered. -/
  silent : List Endpoint
  /-- What arrives after each search. -/
  arrivals : List Arrival

namespace Lan

/-- Nothing is there. -/
def deserted : Lan := ⟨[], [], []⟩

/-- The server that accepts a connection. -/
def server? (n : Lan) (e : Endpoint) : Option Server :=
  if n.silent.contains e then none else n.servers.lookup e

/-- Whether a port accepts. -/
def accepts (n : Lan) (a : Address) (port : Nat) : Bool := (n.server? ⟨a, port⟩).isSome

/-- What arrives from a server that is not asked for anything. -/
def inflow? (n : Lan) (e : Endpoint) : Option Inflow :=
  (n.server? e).map fun
    | .pages _ => .start [] none
    | .greeter pieces ends => .start (pieces.map (⟨0, ·⟩)) (if ends then some 0 else none)

/-- The replies of the servers. -/
def reply? (n : Lan) : Servers := fun e target =>
  match n.server? e with
  | some (.pages replies) =>
    some ((replies.lookup (String.ofList target)).getD HttpReply.missing)
  | _ => none

end Lan

/-! ## Detectors -/

/-- The label by the greeting of an SSH server. All that a scripted server sends arrives at once, so
nobody has to wait for it. -/
def greetingLabel (lan : Lan) (port : Nat) (a : Address) : Option String :=
  (lan.inflow? ⟨a, port⟩).bind (labelByGreeting 0)

/-- The label by the open ports of a host. -/
def portsLabel (lan : Lan) (rules : List PortRule) (a : Address) : Option String :=
  labelByPorts rules (lan.accepts a)

/-! ## Calls for descriptions -/

/-- **`Survey`** — calls for descriptions on a network, or without one. -/
structure Survey where
  lan : Option Lan
  /-- How many milliseconds a search lasts. -/
  window : Nat
  now : Instant
  desk : UpnpDesk
  /-- The searches that were sent. -/
  searches : List String
  /-- The targets that were asked for. -/
  requests : List String

namespace Survey

/-- The survey before any call; a search may just have ended. -/
def initial (lan : Option Lan) (window : Nat) (now : Instant) (found : Option Responders) :
    Survey where
  lan := lan
  window := window
  now := now
  desk := { UpnpDesk.empty with search := found.map fun found => ⟨now, found⟩ }
  searches := []
  requests := []

/-- One turn of a call. -/
def turn (s : Survey) (i : Nat) : Survey :=
  match (s.desk.call? i).map UpnpCall.phase with
  | some .arriving => { s with desk := s.desk.consult i }
  | some .waiting => { s with desk := s.desk.takeTurn i s.now }
  | some .searching =>
    match s.lan with
    | none => { s with desk := s.desk.endSearch i s.now none }
    | some lan =>
      { s with
        desk := s.desk.endSearch i s.now (some (searchResult s.window lan.arrivals))
        searches := s.searches ++ [searchRequest s.window] }
  | some (.fetching location) =>
    let fetched := fetch (s.lan.getD .deserted).reply? location
    { s with
      desk := s.desk.endFetch i fetched.document
      requests := s.requests ++ fetched.asked.map String.ofList }
  | some (.closing _) => { s with desk := s.desk.keep i }
  | _ => s

/-- Lets a call go on to its end, which is no more than five turns away. -/
def finish (s : Survey) (i : Nat) : Survey := ((((s.turn i).turn i).turn i).turn i).turn i

/-- Begins a call. -/
def begin (s : Survey) (a : Address) : Survey := { s with desk := s.desk.begin a }

/-- **`ask s a`** — a call for an address from its beginning to its end, with its label. -/
def ask (s : Survey) (a : Address) : Survey × Option String :=
  let i := s.desk.calls.length
  let s := (s.begin a).finish i
  (s, s.desk.label? i)

/-- Calls one after another: the label of each, and the targets that it asked for. -/
def askInTurn (s : Survey) : List Address → Survey × List (Option String × List String)
  | [] => (s, [])
  | a :: rest =>
    let (s', label) := s.ask a
    let (s'', answers) := s'.askInTurn rest
    (s'', (label, s'.requests.drop s.requests.length) :: answers)

/-- Calls that all look for a label that is kept before one of them ends: their labels. -/
def askAtOnce (s : Survey) (as : List Address) : Survey × List (Option String) :=
  let first := s.desk.calls.length
  let s := as.foldl begin s
  let numbers := (List.range as.length).map (first + ·)
  let s := numbers.foldl turn s
  let s := numbers.foldl finish s
  (s, numbers.map s.desk.label?)

end Survey

end LanCensus.Rehearsal
