/-
# LanCensus.Rehearsal.Stage -- one run of a census in virtual time

A stage carries a service and a scripted network. It gives the tasks of the census their turns in a
fixed order: a task that can go on is put into a queue, the queue is worked off first in, first
out, and when it is empty the clock moves to the next instant at which something is due. So every
wait passes at once and moves the clock by exactly its length, and nothing else moves it.

Every turn of a task is one that the census can take; the stage decides only whose turn it is.
-/

import LanCensus.Census.Run
import LanCensus.Rehearsal.World
import LanCensus.Service.Requests
import LanCensus.Service.Client

namespace LanCensus.Rehearsal

/-! ## Jobs -/

/-- **`Asker`** — who waits for what is found out about an address. -/
inductive Asker where
  | probe (id : Nat)
  | lookup (id : Nat)
  deriving DecidableEq, Repr

/-- **`Job`** — something to do on the stage. -/
inductive Job where
  /-- The sweep has a turn. -/
  | sweep (id : Nat)
  /-- The sweep gets the list of subnets. -/
  | list (id : Nat) (listing : Listing)
  /-- The probe has its first turn. -/
  | probe (id : Nat)
  /-- The ping of an address is over; `host` answered it, if there was one. -/
  | pinged (who : Asker) (a : Address) (host : Option Host)
  /-- The detector has made up its mind. -/
  | judged (who : Asker) (a : Address) (f : Finding) (o : Oracle) (rest : List Oracle)
  /-- The alarm of the timer has a turn. -/
  | timer
  /-- The countdown has a turn. -/
  | tick

/-- **`Stage`** — a rehearsal under way. -/
structure Stage extends Service.Office where
  world : World
  /-- What can be done now, first in, first out. -/
  queue : List Job
  /-- What will be due later, in the order in which it was put off. -/
  later : List (Instant × Job)
  /-- How many pings are under way. -/
  inFlight : Nat
  /-- The most pings that were under way since this was last asked. -/
  mostInFlight : Nat
  /-- Which detectors were asked about which addresses, the latest first. -/
  asked : List (Address × String)
  /-- What lookups have found, by their numbers; nothing if they failed. -/
  found : List (Nat × Option Device)
  clients : List Service.Client
  /-- What a listener to all channels has heard, the latest first. -/
  heard : List Notice
  /-- How many notices that listener has lost. -/
  missed : Nat

namespace Stage

/-- The stage before anything happens. -/
def initial (office : Service.Office) (world : World) : Stage where
  toOffice := office
  world := world
  queue := []
  later := []
  inFlight := 0
  mostInFlight := 0
  asked := []
  found := []
  clients := []
  heard := []
  missed := 0

/-- The job is done after those in the queue. -/
def push (g : Stage) (j : Job) : Stage := { g with queue := g.queue ++ [j] }

/-- The job is done next. -/
def pushFront (g : Stage) (j : Job) : Stage := { g with queue := j :: g.queue }

/-- The job is done at an instant. -/
def putOff (g : Stage) (due : Instant) (j : Job) : Stage :=
  { g with later := g.later ++ [(due, j)] }

/-- The census takes a turn, if it can. -/
def take (g : Stage) (t : Turn) : Stage := { g with census := (g.census.take t).getD g.census }

/-- The instant that many milliseconds from now. -/
def after (g : Stage) (millis : Nat) : Instant := g.census.now.plus (.ofMillis millis)

/-! ## Probes and lookups -/

/-- The probe or lookup is over. -/
def conclude (g : Stage) (who : Asker) (o : Outcome) : Stage :=
  match who with
  | .probe id =>
    match g.census.probe? id with
    | some p => (g.take (.endProbe id o)).push (.sweep p.sweep)
    | none => g
  | .lookup id =>
    match g.census.lookup? id with
    | some l =>
      { g.take (.endLookup id o) with
        found := (id, Census.Lookup.result l g.census.now o) :: g.found }
    | none => g

/-- Asks the detectors in turn. One that takes time puts the others off. -/
def ask (g : Stage) (who : Asker) (a : Address) (f : Finding) : List Oracle → Stage
  | [] => g.conclude who (.found f)
  | o :: rest =>
    let g := { g with asked := (a, o.name) :: g.asked }
    if o.delay = 0 then
      match Detect.label? (o.answer a) with
      | some label => g.conclude who (.found { f with label := some label })
      | none => g.ask who a f rest
    else g.putOff (g.after o.delay) (.judged who a f o rest)

/-- What follows from a ping. -/
def pinged (g : Stage) (who : Asker) (a : Address) (host : Option Host) : Stage :=
  let g := { g with inFlight := g.inFlight - 1 }
  match host with
  | none => g.conclude who .missed
  | some h =>
    if h.crashes then g.conclude who .crashed
    else if h.down then g.conclude who .missed
    else g.ask who a ⟨h.responseTime, g.world.nameOf a, g.world.macOf a, none⟩ g.world.oracles

/-- Pings an address. -/
def ping (g : Stage) (who : Asker) (a : Address) : Stage :=
  let n := g.inFlight + 1
  let g := { g with inFlight := n, mostInFlight := max g.mostInFlight n }
  let host := g.world.hosts.get? a
  let delay := g.world.pingDelay a
  if delay = 0 then g.pinged who a host else g.putOff (g.after delay) (.pinged who a host)

/-! ## Sweeps -/

/-- Sees to it that a sweep goes on after a turn, and that whoever follows it learns of its
end. -/
def continueSweep (g : Stage) (id : Nat) : Stage :=
  match (g.census.sweep? id).map Sweep.phase with
  | some (.resting wake) => g.putOff wake (.sweep id)
  | some (.ended _) | some .crashed => g.push .timer
  | some .listing | none => g
  | some _ => g.pushFront (.sweep id)

/-- Gives a sweep its list of subnets. -/
def giveList (g : Stage) (id : Nat) (l : Listing) : Stage :=
  let turn : Turn :=
    if l.crashes then .collapse id
    else .list id (l.failure.elim (.ok l.names) fun reason => .error (.interfaces reason))
  (g.take turn).continueSweep id

/-- A turn of a sweep. -/
def sweepTurn (g : Stage) (id : Nat) : Stage :=
  match g.census.take (.embark id) with
  | some census =>
    let g := { g with census }
    if ((g.census.sweep? id).map (·.phase)) = some .listing then
      let l := g.world.listing
      if l.delay = 0 then g.giveList id l else g.putOff (g.after l.delay) (.list id l)
    else g.continueSweep id
  | none =>
    match g.census.take (.proceed id) with
    | none => g
    | some census =>
      let probe := g.census.fresh
      let g := { g with census }
      let g := if census.fresh = probe then g else g.push (.probe probe)
      g.continueSweep id

/-! ## The timer -/

/-- A turn of the task that repeats sweeps. -/
def timerTurn (g : Stage) : Stage :=
  match g.census.take .alarm with
  | none => g
  | some census =>
    let g := { g with census }
    match census.timer.map Timer.alarm with
    | some (.set wake) => g.putOff wake .timer
    | some (.following id) => g.push (.sweep id)
    | some .ringing => g.pushFront .timer
    | _ => g

/-- A turn of the countdown. -/
def tickTurn (g : Stage) : Stage :=
  match g.census.take .tick with
  | none => g
  | some census =>
    match census.timer.bind (·.tick) with
    | some due => ({ g with census }).putOff due .tick
    | none => { g with census }

/-! ## Listening -/

/-- Lets everyone hear what has been announced. What all have heard is put aside. -/
def attend (g : Stage) : Stage :=
  if g.census.notices.isEmpty && g.desk.stream.isEmpty then g
  else
    let news := g.census.notices.reverse
    let desk := g.desk.catchUp g.census
    { g with
      census := { g.census with notices := [] }
      desk := { desk with forwarded := 0, stream := [] }
      clients := g.clients.map fun cl => { cl.catchUp desk with passed := 0 }
      heard := (Service.audibleOverall news).reverse ++ g.heard
      missed := g.missed + Service.lostOverall news }

/-! ## Taking turns -/

/-- Does a job. -/
def carryOut (g : Stage) : Job → Stage
  | .sweep id => g.sweepTurn id
  | .list id l => g.giveList id l
  | .probe id =>
    match g.census.probe? id with
    | some p => (g.take (.ping id)).ping (.probe id) p.address
    | none => g
  | .pinged who a host => g.pinged who a host
  | .judged who a f o rest =>
    match Detect.label? (o.answer a) with
    | some label => g.conclude who (.found { f with label := some label })
    | none => g.ask who a f rest
  | .timer => g.timerTurn
  | .tick => g.tickTurn

/-- Does a job, and lets everyone hear of it. -/
def perform (g : Stage) (j : Job) : Stage := (g.carryOut j).attend

/-- More turns than any rehearsal takes. -/
def plenty : Nat := 1000000000000000000

/-- Works off the queue. -/
def settleWith : Nat → Stage → Stage
  | 0, g => g
  | fuel + 1, g =>
    match g.queue with
    | [] => g
    | j :: rest => settleWith fuel (({ g with queue := rest }).perform j)

/-- **`settle g`** — lets everything happen that can happen without time passing. -/
def settle (g : Stage) : Stage := settleWith plenty g

/-- The earliest instant at which something is due. -/
def nextDue (g : Stage) : Option Instant :=
  g.later.foldl
    (fun best (due, _) => some (best.elim due fun b => if due < b then due else b))
    none

/-- Moves the clock to an instant, but never back. -/
def passTo (g : Stage) (t : Instant) : Stage := g.take (.pass (g.census.now.later t))

/-- Moves the clock to an instant, and what is due by then into the queue. -/
def wake (g : Stage) (t : Instant) : Stage :=
  let (due, later) := g.later.partition fun (d, _) => d ≤ t
  { g.passTo t with queue := g.queue ++ due.map (·.2), later }

/-- The next instant up to `limit` at which something is due. -/
def dueBy (g : Stage) (limit : Instant) : Option Instant := g.nextDue.filter (· ≤ limit)

/-- **`turn g`** — does the next job, or moves the clock if there is none to be done now. -/
def turn (g : Stage) : Option Stage :=
  match g.queue with
  | j :: rest => some (({ g with queue := rest }).perform j)
  | [] => g.nextDue.map g.wake

end Stage

end LanCensus.Rehearsal
