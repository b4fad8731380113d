/-
# LanCensus.Service.Operation -- savings that take their time

A write takes effect some time after it was begun, and whoever began it goes on some time after that.
Meanwhile the census has its turns, clients make requests and notices come in, so that several savings can
be under way at once, and nothing says whose write takes effect first. Only the notices wait for each
other: the next one is received when the last one has been passed on to the clients.

What happens next is open, as in a census. A step is one thing that can happen now. No notice is lost on
its way: here listeners fall behind, but never too far.
-/

import LanCensus.Census.Run
import LanCensus.Service.Listener
import LanCensus.Service.Requests

namespace LanCensus.Service

/-! ## Savings under way -/

/-- **`Standing`** — how far a write has come. -/
inductive Standing where
  /-- It has been begun, and nothing has changed yet. -/
  | begun
  /-- It has taken effect. -/
  | done
  | failed (e : SaveError)
  deriving DecidableEq, Repr

/-- What a result makes of a write. -/
def Standing.of : Except SaveError Unit → Standing
  | .ok () => .done
  | .error e => .failed e

/-- **`Saving`** — a write that was begun, and what has become of it. -/
structure Saving where
  id : Nat
  writing : Writing
  standing : Standing
  /-- The notice that is passed on to the clients when the saving is over. -/
  notice : Option Notice
  deriving DecidableEq, Repr

/-- **`Operation`** — an office at work. -/
structure Operation extends Office where
  /-- What has been announced and not been received, oldest first. -/
  waiting : List Notice
  savings : List Saving
  /-- A number that no saving has. -/
  fresh : Nat
  deriving DecidableEq, Repr

namespace Operation

/-- An office that has just been opened. -/
def opened (office : Office) : Operation where
  toOffice := office
  waiting := []
  savings := []
  fresh := 0

/-- The census has become `c`; what it has announced meanwhile is waiting. -/
def hear (o : Operation) (c : Census) : Operation :=
  { o with
    census := c
    waiting := o.waiting ++ unheard o.census.notices.length c.notices }

/-- Keeps a text under a name. -/
def note (o : Operation) (name text : String) : Operation :=
  { o with desk := o.desk.note name text }

/-- Begins a write; its number is the one that was fresh before. -/
def beginWrite (o : Operation) (w : Writing) (notice : Option Notice) : Operation :=
  { o with savings := ⟨o.fresh, w, .begun, notice⟩ :: o.savings, fresh := o.fresh + 1 }

/-- Begins to save everything as it is now; the settings come second. -/
def beginSave (o : Operation) (notice : Option Notice) : Operation :=
  o.beginWrite (.devices o.census.inventory.toList) notice

/-- Begins to save the settings as they are now. -/
def beginSettings (o : Operation) (notice : Option Notice) : Operation :=
  o.beginWrite (.settings o.desk.settings) notice

/-! ## Savings by number -/

/-- The saving with the given number. -/
def saving? (o : Operation) (id : Nat) : Option Saving := o.savings.find? (·.id == id)

/-- The saving takes the place of the one with its number. -/
def put (o : Operation) (s : Saving) : Operation :=
  { o with savings := o.savings.map fun u => if u.id = s.id then s else u }

/-- The saving gives up its number. -/
def drop (o : Operation) (s : Saving) : Operation :=
  { o with savings := o.savings.filter (·.id ≠ s.id) }

/-- The write of a saving takes effect. -/
def land (o : Operation) (s : Saving) : Operation :=
  let (desk, result) := o.desk.write s.writing
  { o with desk }.put { s with standing := .of result }

/-- The saving is over, and its notice is passed on. -/
def conclude (o : Operation) (s : Saving) : Operation :=
  { o.drop s with desk := s.notice.elim o.desk o.desk.pass }

/-- A write that has taken effect may be followed by another. -/
def goOn (o : Operation) (s : Saving) : Operation :=
  match o.desk.following s.writing with
  | some w => (o.drop s).beginWrite w s.notice
  | none => o.conclude s

/-! ## Notices and requests -/

/-- Whether a notice has been received and not been passed on. -/
def attending (o : Operation) : Bool := o.savings.any (·.notice.isSome)

/-- A notice is received. The end of a sweep is noted, and passed on when everything is saved. -/
def receive (o : Operation) : Notice → Operation
  | .schedule (.sweepCompleted t) =>
    (o.note lastSweepName t.textToSecond).beginSave (some (.schedule (.sweepCompleted t)))
  | n => { o with desk := o.desk.pass n }

/-- A lookup that a client waits for is over. The address that was probed is noted and saved. -/
def answer (o : Operation) (l : Lookup) (outcome : Outcome) : Operation :=
  let after := o.hear (o.census.endLookup l outcome)
  match Census.Lookup.result l o.census.now outcome with
  | some d => (after.note lastProbedName d.address.text).beginSettings none
  | none => after

/-- A client has a device taken out of the inventory, and that is saved. -/
def remove (o : Operation) (a : Address) : Operation :=
  if (o.census.inventory.find? a).isNone then o
  else (o.hear (o.census.remove a)).beginSave none

end Operation

/-! ## Steps -/

/-- **`Happening`** — something that can happen while an office is at work. -/
inductive Happening where
  /-- The census has a turn. -/
  | turn (t : Turn)
  /-- A lookup ends. -/
  | answer (lookup : Nat) (outcome : Outcome)
  /-- A client has a device taken out of the inventory. -/
  | remove (a : Address)
  /-- Everything is to be saved. -/
  | save
  /-- The next notice of a channel is received. -/
  | receive (k : Channel)
  /-- A write takes effect. -/
  | land (saving : Nat)
  /-- A saving goes on after its write. -/
  | goOn (saving : Nat)

namespace Operation

/-- Whether the office has more to do about a turn of its census than to let it be taken. -/
def attends : Turn → Bool
  | .remove _ | .endLookup .. => true
  | _ => false

/-- **`step o x`** — the operation after something has happened, unless it cannot happen now. -/
def step (o : Operation) : Happening → Option Operation
  | .turn t => if attends t then none else (o.census.take t).map o.hear
  | .answer lookup outcome => (o.census.lookup? lookup).map fun l => o.answer l outcome
  | .remove a => some (o.remove a)
  | .save => some (o.beginSave none)
  | .receive k =>
    if o.attending then none
    else
      (o.waiting.find? (Channel.of · = k)).map fun n =>
        { o with waiting := o.waiting.eraseP (Channel.of · = k) }.receive n
  | .land id => do
    let s ← o.saving? id
    if s.standing = .begun then some (o.land s) else none
  | .goOn id => do
    let s ← o.saving? id
    match s.standing with
    | .begun => none
    | .done => some (o.goOn s)
    | .failed _ => some (o.conclude s)

end Operation

end LanCensus.Service
