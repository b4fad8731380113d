/-
# LanCensus.Detect.Inquiry -- calls that are under way at once

Calls for descriptions begin at any times, and each goes on when it can: a call that searches when its
search is over, one that fetches when the document has come, and every other one when it has its turn. Which
of them goes on next is open, and so is how much time passes meanwhile. A step is one thing that can happen
now.
-/

import LanCensus.Detect.Upnp

namespace LanCensus.Detect

/-- **`Happening`** — something that can happen while calls are under way. -/
inductive Happening where
  /-- A call for an address begins. -/
  | call (a : Address)
  /-- A call has its turn to look at the labels that are kept. -/
  | consult (call : Nat)
  /-- A call has its turn to look at the last search. -/
  | takeTurn (call : Nat)
  /-- The search of a call is over, with what it has found unless it has failed. -/
  | endSearch (call : Nat) (result : Option Responders)
  /-- The description that a call fetches has come, or will not. -/
  | endFetch (call : Nat) (document : Option (List UInt8))
  /-- A call has its turn to have its label kept. -/
  | keep (call : Nat)
  /-- Time passes. -/
  | pass (s : Span)

/-- **`Inquiry`** — calls under way, and a clock. -/
structure Inquiry extends UpnpDesk where
  now : Instant

namespace Inquiry

/-- Nothing has been asked for yet. -/
def begun (now : Instant) : Inquiry := ⟨.empty, now⟩

/-- The phase of a call. -/
def phase? (q : Inquiry) (i : Nat) : Option CallPhase := (q.call? i).map UpnpCall.phase

/-- **`step q x`** — the inquiry after something has happened, unless it cannot happen now. -/
def step (q : Inquiry) : Happening → Option Inquiry
  | .call a => some { q with toUpnpDesk := q.begin a }
  | .consult i =>
    match q.phase? i with
    | some .arriving => some { q with toUpnpDesk := q.consult i }
    | _ => none
  | .takeTurn i =>
    match q.phase? i with
    | some .waiting =>
      if q.isSearching then none else some { q with toUpnpDesk := q.takeTurn i q.now }
    | _ => none
  | .endSearch i result =>
    match q.phase? i with
    | some .searching => some { q with toUpnpDesk := q.endSearch i q.now result }
    | _ => none
  | .endFetch i document =>
    match q.phase? i with
    | some (.fetching _) => some { q with toUpnpDesk := q.endFetch i document }
    | _ => none
  | .keep i =>
    match q.phase? i with
    | some (.closing _) => some { q with toUpnpDesk := q.keep i }
    | _ => none
  | .pass s => some { q with now := q.now.plus s }

end Inquiry

end LanCensus.Detect
