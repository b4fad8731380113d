/-
# LanCensus.Detect.Upnp -- asking devices for their descriptions

A call for an address ends with the label of the device that lives there. Several calls may be
under way. What they share is here: the labels that were found, which are kept for good, and the
last search, whose replies serve all calls until they are too old. One call at a time searches, and
the others wait for it.

A call goes through phases. The functions here are the turns in which it passes from one to the
next, so every order of turns is an order in which calls may go on.
-/

import LanCensus.Detect.DescriptionFile
import LanCensus.Detect.Ssdp
import LanCensus.Time.Instant

namespace LanCensus.Detect

/-! ## Searches -/

/-- **`Search`** — a search that has ended. -/
structure Search where
  finished : Instant
  found : Responders

/-- How long a search serves. -/
def searchLifetime : Span := .ofSeconds 60

/-- Whether a search still serves. -/
def Search.isFresh (s : Search) (now : Instant) : Bool := now < s.finished.plus searchLifetime

/-! ## Calls -/

/-- **`CallPhase`** — how far a call has come. -/
inductive CallPhase where
  /-- It waits for its turn to look at the labels that are kept. -/
  | arriving
  /-- It waits for its turn to look at the last search. -/
  | waiting
  /-- It searches. -/
  | searching
  /-- It fetches the description at a location. -/
  | fetching (location : List Char)
  /-- It has its label, and waits for its turn to have it kept. -/
  | closing (label : Option String)
  /-- It has ended. -/
  | answered (label : Option String)
  deriving DecidableEq, Repr

/-- The phase of a call that has looked at what a search has found: it fetches the description at the
location of its address, or has no label. -/
def CallPhase.lookedUp : Option (List Char) → CallPhase
  | some location => .fetching location
  | none => .closing none

/-- **`UpnpCall`** — a call for an address. -/
structure UpnpCall where
  address : Address
  phase : CallPhase
  deriving DecidableEq, Repr

/-- **`UpnpDesk`** — what calls share, and the calls in the order in which they began. -/
structure UpnpDesk where
  labels : AddressMap (Option String)
  search : Option Search
  calls : List UpnpCall

namespace UpnpDesk

/-- Nothing has been asked for yet. -/
def empty : UpnpDesk := ⟨.empty, none, []⟩

/-- Whether one of the calls searches. -/
def isSearching (u : UpnpDesk) : Bool := u.calls.any (·.phase = .searching)

/-- The call with a number. -/
def call? (u : UpnpDesk) (i : Nat) : Option UpnpCall := u.calls[i]?

/-- The label with which a call has ended. -/
def label? (u : UpnpDesk) (i : Nat) : Option String :=
  match (u.call? i).map UpnpCall.phase with
  | some (.answered label) => label
  | _ => none

/-- The call is in another phase. -/
def enter (u : UpnpDesk) (i : Nat) (phase : CallPhase) : UpnpDesk :=
  { u with calls := u.calls.modify i fun c => { c with phase } }

/-! ## Turns -/

/-- **`begin u a`** — a new call, whose number is that of the calls before it. -/
def begin (u : UpnpDesk) (a : Address) : UpnpDesk := { u with calls := u.calls ++ [⟨a, .arriving⟩] }

/-- **`consult u i`** — a label that is kept for the address of a call ends the call at once. -/
def consult (u : UpnpDesk) (i : Nat) : UpnpDesk :=
  match u.call? i with
  | some ⟨a, .arriving⟩ => u.enter i ((u.labels.get? a).elim .waiting .answered)
  | _ => u

/-- The call looks at what a search has found. -/
def lookUp (u : UpnpDesk) (i : Nat) (a : Address) (found : Responders) : UpnpDesk :=
  u.enter i (.lookedUp (found.get? a))

/-- **`takeTurn u i now`** — a call that waits goes on, unless another one searches. If the last
search is too old, it searches itself. -/
def takeTurn (u : UpnpDesk) (i : Nat) (now : Instant) : UpnpDesk :=
  match u.call? i with
  | some ⟨a, .waiting⟩ =>
    if u.isSearching then u
    else
      match u.search.filter (·.isFresh now) with
      | some s => u.lookUp i a s.found
      | none => u.enter i .searching
  | _ => u

/-- **`endSearch u i now result`** — the search of a call is over. One that failed leaves the last
search as it is, and its call has no label. -/
def endSearch (u : UpnpDesk) (i : Nat) (now : Instant) (result : Option Responders) : UpnpDesk :=
  match u.call? i with
  | some ⟨a, .searching⟩ =>
    match result with
    | some found => { u with search := some ⟨now, found⟩ }.lookUp i a found
    | none => u.enter i (.closing none)
  | _ => u

/-- The label that comes of fetching a description. -/
def labelOfFetched (document : Option (List UInt8)) : String :=
  document.elim plainUpnpLabel fun bytes => labelOfDocument (Text.Utf8.decodeLossy bytes)

/-- **`endFetch u i document`** — the description has been fetched, or cannot be. -/
def endFetch (u : UpnpDesk) (i : Nat) (document : Option (List UInt8)) : UpnpDesk :=
  match u.call? i with
  | some ⟨_, .fetching _⟩ => u.enter i (.closing (some (labelOfFetched document)))
  | _ => u

/-- **`keep u i`** — the label of a call is kept, in the place of any other of its address, and the call
ends. -/
def keep (u : UpnpDesk) (i : Nat) : UpnpDesk :=
  match u.call? i with
  | some ⟨a, .closing label⟩ =>
    { u with labels := u.labels.insert a label }.enter i (.answered label)
  | _ => u

end UpnpDesk

end LanCensus.Detect
