/-
# LanCensus.Net.Fetch -- fetching a document

A document is fetched by HTTP from the host that its URL names. A reply may send on to another
URL, and then the document is fetched from there; there is a limit to how often that may happen.
A reply that tells of an error is no document, and neither is one that breaks off.
-/

import LanCensus.Net.Url

namespace LanCensus

/-! ## Replies -/

/-- **`Endpoint`** — a port of a host. -/
structure Endpoint where
  address : Address
  port : Nat
  deriving DecidableEq, Repr

/-- **`HttpReply`** — the reply of a server. -/
structure HttpReply where
  status : Nat
  headers : List (String × String)
  /-- The length of the body as it is announced. -/
  announced : Nat
  /-- What is sent. -/
  body : List UInt8
  deriving DecidableEq, Repr

namespace HttpReply

/-- The reply of a server that has no such document. -/
def missing : HttpReply := ⟨404, [], 0, []⟩

/-- The value of a header; the case of its name does not count. -/
def header? (r : HttpReply) (name : String) : Option String :=
  (r.headers.find? fun h => Text.asciiLower h.1.toList = name.toList).map (·.2)

/-- Whether a status is one that a server can send on its own. -/
def isFinal (status : Nat) : Bool := 200 ≤ status && status < 1000

/-- Whether a status sends on. -/
def movesOn (status : Nat) : Bool := [301, 302, 303, 307, 308].contains status

/-- Whether a status tells of an error. -/
def tellsError (status : Nat) : Bool := 400 ≤ status && status < 600

/-- Whether a reply with this status has no body, whatever is announced. -/
def isBare (status : Nat) : Bool := status == 204 || status == 304

/-- The URL that a reply sends on to, given the one that was asked for. -/
def forward? (r : HttpReply) (asked : Url) : Option Url :=
  if movesOn r.status then
    (r.header? "location").bind fun s => Url.read? (some asked) s.toList
  else none

/-- The document in a reply, if it is all there. -/
def document? (r : HttpReply) : Option (List UInt8) :=
  if !isFinal r.status || tellsError r.status then none
  else if isBare r.status then some []
  else if r.body.length < r.announced then none
  else some (r.body.take r.announced)

end HttpReply

/-! ## Fetching -/

/-- The address of the host itself. -/
def loopback : Address := ⟨127, 0, 0, 1⟩

/-- The address of a host. Only the host itself has a name that everybody knows. -/
def UrlHost.address? : UrlHost → Option Address
  | .address a => some a
  | .name s => if s = "localhost".toList then some loopback else none
  | .address6 _ => none

/-- Where a document is asked for. -/
def Url.endpoint? (u : Url) : Option Endpoint :=
  if u.scheme = .http then u.host.address?.map fun a => ⟨a, u.port⟩ else none

/-- **`Servers`** — what comes of asking for a target at an endpoint; nothing if no server is
there. -/
abbrev Servers := Endpoint → List Char → Option HttpReply

/-- **`Fetched`** — what comes of fetching a document. -/
structure Fetched where
  document : Option (List UInt8)
  /-- The targets that servers were asked for. -/
  asked : List (List Char)
  deriving DecidableEq, Repr

/-- How often a document may be moved. -/
def moveLimit : Nat := 10

/-- Fetches a document that may be moved so many times. -/
def fetchWithin (servers : Servers) : Nat → Url → Fetched
  | moves, u =>
    match u.endpoint?.bind fun e => servers e u.target with
    | none => ⟨none, []⟩
    | some r =>
      match r.forward? u, moves with
      | none, _ => ⟨r.document?, [u.target]⟩
      | some _, 0 => ⟨none, [u.target]⟩
      | some next, moves + 1 =>
        let rest := fetchWithin servers moves next
        { rest with asked := u.target :: rest.asked }

/-- **`fetch servers location`** — fetches the document at a location. -/
def fetch (servers : Servers) (location : List Char) : Fetched :=
  match Url.read? none location with
  | some u => fetchWithin servers moveLimit u
  | none => ⟨none, []⟩

end LanCensus
