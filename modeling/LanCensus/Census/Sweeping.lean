/-
# LanCensus.Census.Sweeping -- the turns of a sweep

A sweep begins only if no other is in progress. It asks for the subnets, skips names that name
none, and ends if nothing is left. Otherwise it marks every device offline and turns to its
addresses one by one, subnet by subnet and octets ascending. For each it needs a permit, of which
there are as many as probes may run at once. After each batch it reports how far it is and rests.
When all addresses are dispatched, or a pause was noticed, it waits for its probes and ends.
-/

import LanCensus.Census.Basic
import LanCensus.Net.Subnet

namespace LanCensus.Census

/-! ## Ending -/

/-- The end of a sweep, whatever it has done. It also ends a census armed for one sweep. -/
def finish (c : Census) (s : Sweep) : Census :=
  let c := { c with armed := c.armed && c.options.continuous, sweeping := false }
  (c.putSweep { s with phase := .ended c.inventory.toList }).announce (.sweeping false)

/-- The end of a sweep that could not set out. -/
def abort (c : Census) (s : Sweep) (reason : String) : Census :=
  (c.complain s!"Network scan failed: {reason}").finish s

/-- The end of a sweep that fails beyond recovery. Its probes are given up, and nobody is told. -/
def crash (c : Census) (s : Sweep) : Census :=
  ({ c with sweeping := false, probes := c.probes.filter (·.sweep ≠ s.id) }).putSweep
    { s with phase := .crashed }

/-- The end of a sweep all of whose probes have ended. -/
def complete (c : Census) (s : Sweep) : Census :=
  let c := ({ c with lastSweep := some c.now }).announce (.schedule (.sweepCompleted c.now))
  let c :=
    if c.armed && s.options.continuous then
      c.setNextSweep (some (dueAfter c.now s.options.interval))
    else c
  (c.report s!"Scan complete: {s.answered} of {s.dispatched} addresses responded").finish s

/-! ## Setting out -/

/-- **`embark c s`** — the first turn of a sweep. If another is in progress it ends at once, with
the inventory as it is. -/
def embark (c : Census) (s : Sweep) : Census :=
  match s.phase with
  | .queued pauses =>
    if c.sweeping then c.putSweep { s with phase := .ended c.inventory.toList }
    else
      let c := ({ c with sweeping := true }).announce (.sweeping true)
      c.putSweep { s with
        phase := .listing
        pauses := pauses.getD c.pauses
        options := c.options }
  | _ => c

/-- Complains about each name that names no subnet. -/
def complainInvalid (c : Census) (names : List String) : Census :=
  names.foldl
    (fun c name =>
      match Subnet.read name with
      | .ok _ => c
      | .error e => c.complain e.message)
    c

/-- The subnets that are named, each with its name as it was given. -/
def named (names : List String) : List (String × Subnet) :=
  names.filterMap fun name => (Subnet.parse? name).map (name, ·)

/-- The addresses that a sweep with options `o` probes, in its order. -/
def targetsOf (o : Sweep.Options) (subnets : List (String × Subnet)) : List Sweep.Target :=
  subnets.flatMap fun (name, n) => o.octets.map fun octet => ⟨name, n.host octet⟩

/-- More permits than this, a number of 61 bits, cannot be managed; a sweep with options that allow
more fails. -/
def permitLimit : Nat := 2305843009213693951

/-- Sets out to probe the addresses of the subnets. -/
def setOut (c : Census) (s : Sweep) (subnets : List (String × Subnet)) : Census :=
  let total := subnets.length * s.options.octetCount
  let list := ", ".intercalate (subnets.map fun (name, _) => s!"{name}.0/24")
  let c := ({ c with inventory := c.inventory.allOffline }).report
    s!"Scanning {total} addresses on {list}"
  if permitLimit < s.options.maxProbes.toNat then c.crash s
  else
    c.putSweep { s with
      phase := .ready
      targets := targetsOf s.options subnets
      total := total
      permits := s.options.maxProbes.toNat }

/-- **`listed c s names`** — the sweep has been told the names of the subnets. -/
def listed (c : Census) (s : Sweep) (names : List String) : Census :=
  let c := c.complainInvalid names
  let subnets := named names
  if subnets.isEmpty then c.abort s "No subnets to scan"
  else if c.pauses ≠ s.pauses then c.finish s
  else c.setOut s subnets

/-- **`unlisted c s e`** — the sweep has been told that there is no list of subnets. -/
def unlisted (c : Census) (s : Sweep) (e : SubnetError) : Census := c.abort s e.message

/-! ## Dispatching -/

/-- Dispatches a probe and takes a permit for it. -/
def dispatch (c : Census) (s : Sweep) (t : Sweep.Target) (rest : List Sweep.Target) : Census :=
  let probe : Probe :=
    ⟨c.fresh, s.id, t.address, s.options.pingTimeoutMillis.toNat, false⟩
  let c := { c with
    probes := c.probes ++ [probe]
    fresh := c.fresh + 1
    dispatched := c.dispatched + 1 }
  let s := { s with targets := rest, permits := s.permits - 1, dispatched := s.dispatched + 1 }
  if s.options.batchSize = 0 then c.crash s
  else if s.dispatched % s.options.batchSize.toNat = 0 then
    let c := c.report s!"Scanning {t.subnet}.x ({s.dispatched}/{s.total})"
    if s.options.throttleMillis = 0 then c.putSweep { s with phase := .ready }
    else c.putSweep { s with phase := .resting (c.now.plus s.options.throttle) }
  else c.putSweep { s with phase := .ready }

/-- Turns to the next address with a permit at hand, unless the census was paused. -/
def dispatchNext (c : Census) (s : Sweep) : Census :=
  match s.targets with
  | [] => c.putSweep { s with phase := .draining }
  | t :: rest =>
    if c.pauses ≠ s.pauses then c.putSweep { s with phase := .draining }
    else c.dispatch s t rest

/-- **`proceed c s`** — the next turn of a sweep that is dispatching or draining; nothing if it
has to wait. -/
def proceed (c : Census) (s : Sweep) : Option Census :=
  match s.phase with
  | .ready =>
    if s.targets.isEmpty || c.pauses ≠ s.pauses || 0 < s.permits then some (c.dispatchNext s)
    else some (c.putSweep { s with phase := .waiting })
  | .waiting => if 0 < s.permits then some (c.dispatchNext s) else none
  | .resting wake => if wake ≤ c.now then some (c.putSweep { s with phase := .ready }) else none
  | .draining => if c.hasProbes s then none else some (c.complete s)
  | _ => none

end LanCensus.Census
