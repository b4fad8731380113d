/-
# LanCensus.Proofs.Census.Beside -- a census with lookups beside one without

Two censuses are set side by side: in one of them single devices have been looked up, in the other
not. They count sweeps, probes and lookups together, so a sweep that the one has numbered `n` has a
number `σ n` in the other. `Beside σ c d` says that apart from this numbering nothing but progress
messages, pings and the lookups themselves tells `c` from `d`.

Every operation of a census keeps two censuses side by side. The lemmas follow the definitions one by
one: those of the small operations first, and the others put together from them.
-/

import LanCensus.Proofs.Census.Steering
import Mathlib.Order.Monotone.Basic

namespace LanCensus

/-! ## Other numbers -/

/-- The sweep under its other number. -/
def Sweep.renumber (σ : Nat → Nat) (s : Sweep) : Sweep := { s with id := σ s.id }

/-- The probe under its other number, and its sweep too. -/
def Probe.renumber (σ : Nat → Nat) (p : Probe) : Probe := { p with id := σ p.id, sweep := σ p.sweep }

/-- The alarm of a timer that follows the sweep under its other number. -/
def Alarm.renumber (σ : Nat → Nat) : Alarm → Alarm
  | .following id => .following (σ id)
  | a => a

/-- The timer with such an alarm. -/
def Timer.renumber (σ : Nat → Nat) (t : Timer) : Timer := { t with alarm := t.alarm.renumber σ }

/-- The same turn of the sweep or probe under its other number. -/
def Turn.renumber (σ : Nat → Nat) : Turn → Turn
  | .embark id => .embark (σ id)
  | .list id names => .list (σ id) names
  | .collapse id => .collapse (σ id)
  | .proceed id => .proceed (σ id)
  | .ping id => .ping (σ id)
  | .endProbe id o => .endProbe (σ id) o
  | t => t

/-- Whether a turn belongs to a lookup. -/
def Turn.isLookup : Turn → Bool
  | .lookUp _ | .endLookup _ _ => true
  | _ => false

/-! ## More progress messages -/

/-- **`AddsProgress ns ms`** — the notices `ns` are `ms` with progress messages between them. -/
inductive AddsProgress : List Notice → List Notice → Prop
  | nil : AddsProgress [] []
  | both {ns ms : List Notice} (n : Notice) : AddsProgress ns ms → AddsProgress (n :: ns) (n :: ms)
  | more {ns ms : List Notice} (level : Severity) (message : String) (time : Instant) :
      AddsProgress ns ms → AddsProgress (.progress level message time :: ns) ms

namespace AddsProgress

theorem refl (ns : List Notice) : AddsProgress ns ns := by
  induction ns with
  | nil => exact .nil
  | cons n ns ih => exact .both n ih

/-- A channel without progress messages carries the same. -/
theorem filterMap_eq {α : Type} {f : Notice → Option α} {ns ms : List Notice}
    (h : AddsProgress ns ms) (hf : ∀ level message time, f (.progress level message time) = none) :
    ns.filterMap f = ms.filterMap f := by
  induction h with
  | nil => rfl
  | both n _ ih => rw [List.filterMap_cons, List.filterMap_cons, ih]
  | more level message time _ ih => rw [List.filterMap_cons, hf, ih]

end AddsProgress

/-! ## Side by side -/

/-- **`Beside σ c d`** — the census `c` is `d` but for the numbers that `σ` translates, the lookups, and
what lookups announce and ping. -/
structure Beside (σ : Nat → Nat) (c d : Census) : Prop where
  strict : StrictMono σ
  /-- What will get a number gets the next one in both. -/
  fresh : ∀ k, σ (d.fresh + k) = c.fresh + k
  now : c.now = d.now
  options : c.options = d.options
  inventory : c.inventory = d.inventory
  armed : c.armed = d.armed
  sweeping : c.sweeping = d.sweeping
  pauses : c.pauses = d.pauses
  dispatched : c.dispatched = d.dispatched
  nextSweep : c.nextSweep = d.nextSweep
  lastSweep : c.lastSweep = d.lastSweep
  timer : c.timer = d.timer.map (·.renumber σ)
  sweeps : c.sweeps = d.sweeps.map (·.renumber σ)
  probes : c.probes = d.probes.map (·.renumber σ)
  notices : AddsProgress c.notices d.notices
  pings : d.pings.Sublist c.pings

namespace Beside

open Census

variable {σ : Nat → Nat} {c d : Census}

theorem fresh_eq (h : Beside σ c d) : σ d.fresh = c.fresh := h.fresh 0

/-- Numbers are the same exactly if the numbers they stand for are. -/
theorem num_eq (h : Beside σ c d) {m n : Nat} : σ m = σ n ↔ m = n := h.strict.injective.eq_iff

/-- Both take the same branch. -/
theorem ite {p q : Prop} [Decidable p] [Decidable q] {c₁ c₂ d₁ d₂ : Census} (hpq : p ↔ q)
    (h₁ : Beside σ c₁ d₁) (h₂ : Beside σ c₂ d₂) :
    Beside σ (if p then c₁ else c₂) (if q then d₁ else d₂) := by
  by_cases hq : q
  · rwa [if_pos hq, if_pos (hpq.mpr hq)]
  · rwa [if_neg hq, if_neg (mt hpq.mp hq)]

/-! ### Announcing -/

theorem announce_of_eq (h : Beside σ c d) {n m : Notice} (hn : n = m) :
    Beside σ (c.announce n) (d.announce m) :=
  { h with notices := hn ▸ .both n h.notices }

theorem announce (h : Beside σ c d) (n : Notice) : Beside σ (c.announce n) (d.announce n) :=
  h.announce_of_eq rfl

theorem report (h : Beside σ c d) (m : String) : Beside σ (c.report m) (d.report m) :=
  h.announce_of_eq (by rw [h.now])

theorem complain (h : Beside σ c d) (m : String) : Beside σ (c.complain m) (d.complain m) :=
  h.announce_of_eq (by rw [h.now])

theorem tell (h : Beside σ c d) (n : DeviceNotice) : Beside σ (c.tell n) (d.tell n) := h.announce _

theorem setNextSweep (h : Beside σ c d) (due : Option Instant) :
    Beside σ (c.setNextSweep due) (d.setNextSweep due) :=
  have hdue : Beside σ { c with nextSweep := due } { d with nextSweep := due } :=
    { h with nextSweep := rfl }
  .ite (by rw [h.nextSweep]) h (hdue.announce _)

/-! ### Sweeps and probes by number -/

/-- Under the other number the other record of the same thing is found. -/
theorem find?_renumber {α : Type} {f : α → α} (id : α → Nat) (h : Beside σ c d)
    (hf : ∀ x, id (f x) = σ (id x)) (xs : List α) (n : Nat) :
    (xs.map f).find? (id · == σ n) = (xs.find? (id · == n)).map f := by
  rw [List.find?_map]
  refine congrArg (fun p => Option.map f (xs.find? p)) (funext fun x => ?_)
  rw [Function.comp_apply, hf, Bool.eq_iff_iff, beq_iff_eq, beq_iff_eq, h.num_eq]

theorem sweep? (h : Beside σ c d) (n : Nat) :
    c.sweep? (σ n) = (d.sweep? n).map (·.renumber σ) := by
  unfold Census.sweep?
  rw [h.sweeps]
  exact find?_renumber Sweep.id h (fun _ => rfl) d.sweeps n

theorem probe? (h : Beside σ c d) (n : Nat) :
    c.probe? (σ n) = (d.probe? n).map (·.renumber σ) := by
  unfold Census.probe?
  rw [h.probes]
  exact find?_renumber Probe.id h (fun _ => rfl) d.probes n

/-- A change is made to the same things. -/
theorem map_renumber {α : Type} {f g k : α → α} {p q : α → Prop} [DecidablePred p]
    [DecidablePred q] (hpq : ∀ x, p (f x) ↔ q x) (hg : ∀ x, g (f x) = f (k x)) (xs : List α) :
    (xs.map f).map (fun x => if p x then g x else x) =
      (xs.map fun x => if q x then k x else x).map f := by
  rw [List.map_map, List.map_map]
  refine List.map_congr_left fun x _ => ?_
  rw [Function.comp_apply, Function.comp_apply]
  by_cases hq : q x
  · rw [if_pos hq, if_pos ((hpq x).mpr hq), hg]
  · rw [if_neg hq, if_neg (mt (hpq x).mp hq)]

/-- The same things are left. -/
theorem filter_renumber {α : Type} {f : α → α} {p q : α → Bool} (hpq : ∀ x, p (f x) = q x)
    (xs : List α) : (xs.map f).filter p = (xs.filter q).map f := by
  rw [List.filter_map, show p ∘ f = q from funext hpq]

theorem putSweep (h : Beside σ c d) {s s' : Sweep} (hs : s' = s.renumber σ) :
    Beside σ (c.putSweep s') (d.putSweep s) :=
  { h with
    sweeps := by
      unfold Census.putSweep
      rw [h.sweeps, hs]
      exact map_renumber (g := fun _ => s.renumber σ) (k := fun _ => s) (fun _ => h.num_eq)
        (fun _ => rfl) d.sweeps }

theorem putTimer (h : Beside σ c d) {t t' : Timer} (ht : t' = t.renumber σ) :
    Beside σ (c.putTimer t') (d.putTimer t) :=
  { h with timer := congrArg some ht }

theorem hasProbes (h : Beside σ c d) (s : Sweep) :
    c.hasProbes (s.renumber σ) = d.hasProbes s := by
  unfold Census.hasProbes
  rw [h.probes, List.any_map]
  refine congrArg d.probes.any (funext fun p => ?_)
  rw [Function.comp_apply, Bool.eq_iff_iff, beq_iff_eq, beq_iff_eq]
  exact h.num_eq

/-- One number has been given away in both. -/
theorem fresh_succ (h : Beside σ c d) (k : Nat) : σ (d.fresh + 1 + k) = c.fresh + 1 + k := by
  rw [Nat.add_assoc, h.fresh, Nat.add_assoc]

theorem requestSweep (h : Beside σ c d) (p : Option Nat) :
    Beside σ (c.requestSweep p) (d.requestSweep p) :=
  { h with
    fresh := h.fresh_succ
    sweeps := by
      unfold Census.requestSweep
      rw [h.sweeps, h.options, ← h.fresh_eq]
      rfl }

/-! ### Control -/

theorem disarm (h : Beside σ c d) : Beside σ c.disarm d.disarm :=
  have hoff : Beside σ { c with armed := false, timer := none }
      { d with armed := false, timer := none } := { h with armed := rfl, timer := rfl }
  hoff.setNextSweep none

theorem freshTimer (h : Beside σ c d) : c.freshTimer = d.freshTimer.renumber σ := by
  unfold Census.freshTimer
  rw [h.pauses]
  rfl

theorem arm (h : Beside σ c d) (m : String) : Beside σ (c.arm m) (d.arm m) := by
  have hon : Beside σ { c with armed := true } { d with armed := true } := { h with armed := rfl }
  have hsaid := hon.report m
  have hnone := hsaid.setNextSweep none
  refine .ite (by rw [h.armed]) h (.ite (by rw [hsaid.options]) ?_ ?_)
  · exact { hnone with timer := congrArg some hnone.freshTimer }
  · rw [hsaid.pauses]
    exact hsaid.requestSweep _

theorem pause (h : Beside σ c d) : Beside σ c.pause d.pause := by
  have hcount : Beside σ { c with pauses := c.pauses + 1 } { d with pauses := d.pauses + 1 } :=
    { h with pauses := congrArg (· + 1) h.pauses }
  have hoff := hcount.disarm
  exact .ite (by rw [h.armed, h.sweeping]) (hoff.report _) hoff

theorem setOptions (h : Beside σ c d) (o : Sweep.Options) :
    Beside σ ((c.setOptions o).toOption.getD c) ((d.setOptions o).toOption.getD d) := by
  have hset : Beside σ { c with options := o } { d with options := o } := { h with options := rfl }
  have hoff := hset.disarm
  unfold Census.setOptions
  cases o.check with
  | error e => exact h
  | ok u =>
      cases o.continuous with
      | true =>
          simp only [bind, Except.bind, pure, Except.pure, if_true]
          exact hset
      | false =>
          simp only [bind, Except.bind, pure, Except.pure, Bool.false_eq_true, if_false]
          by_cases harmed : d.armed = true
          · rw [if_pos harmed, if_pos (h.armed.trans harmed)]
            exact hoff.report _
          · rw [if_neg harmed, if_neg (h.armed ▸ harmed)]
            exact hoff

theorem remove (h : Beside σ c d) (a : Address) : Beside σ (c.remove a) (d.remove a) := by
  have hout : Beside σ { c with inventory := c.inventory.remove a }
      { d with inventory := d.inventory.remove a } :=
    { h with inventory := congrArg (Inventory.remove · a) h.inventory }
  exact .ite (by rw [h.inventory]) (hout.tell _) h

/-! ### Timing -/

theorem nothingAhead (h : Beside σ c d) : c.nothingAhead = d.nothingAhead := by
  unfold Census.nothingAhead
  rw [h.nextSweep, h.now]

theorem planAhead (h : Beside σ c d) : Beside σ c.planAhead d.planAhead := by
  unfold Census.planAhead
  rw [h.now, h.options]
  exact .ite (by rw [h.nothingAhead]) (h.setNextSweep _) h

theorem ring (h : Beside σ c d) (t : Timer) : Beside σ (c.ring (t.renumber σ)) (d.ring t) := by
  refine .ite (by rw [h.pauses]; rfl) (h.putTimer rfl) ?_
  refine .ite (by rw [h.nothingAhead]) (h.putTimer (by rw [h.nextSweep, h.now]; rfl)) ?_
  refine .ite (by rw [h.sweeping]) (h.planAhead.putTimer rfl) ?_
  exact (h.requestSweep (some t.pauses)).putTimer (by rw [← h.fresh_eq]; rfl)

theorem countDown (h : Beside σ c d) : Beside σ c.countDown d.countDown := by
  unfold Census.countDown
  rw [h.nextSweep]
  split
  · rw [h.now]
    exact h.announce _
  · exact h

/-! ### Sweeping -/

theorem finish (h : Beside σ c d) (s : Sweep) : Beside σ (c.finish (s.renumber σ)) (d.finish s) :=
  have hoff : Beside σ { c with armed := c.armed && c.options.continuous, sweeping := false }
      { d with armed := d.armed && d.options.continuous, sweeping := false } :=
    { h with armed := by rw [h.armed, h.options], sweeping := rfl }
  (hoff.putSweep (by rw [h.inventory]; rfl)).announce _

theorem abort (h : Beside σ c d) (s : Sweep) (reason : String) :
    Beside σ (c.abort (s.renumber σ) reason) (d.abort s reason) :=
  (h.complain _).finish s

theorem crash (h : Beside σ c d) {s s' : Sweep} (hs : s' = s.renumber σ) :
    Beside σ (c.crash s') (d.crash s) := by
  subst hs
  have hoff : Beside σ { c with sweeping := false, probes := c.probes.filter (·.sweep ≠ σ s.id) }
      { d with sweeping := false, probes := d.probes.filter (·.sweep ≠ s.id) } :=
    { h with
      sweeping := rfl
      probes := by
        rw [h.probes]
        exact filter_renumber (f := Probe.renumber σ)
          (fun _ => decide_eq_decide.mpr (not_congr h.num_eq)) d.probes }
  exact hoff.putSweep rfl

theorem complete (h : Beside σ c d) (s : Sweep) :
    Beside σ (c.complete (s.renumber σ)) (d.complete s) := by
  have hlast : Beside σ { c with lastSweep := some c.now } { d with lastSweep := some d.now } :=
    { h with lastSweep := congrArg some h.now }
  have hsaid : Beside σ
      ({ c with lastSweep := some c.now }.announce (.schedule (.sweepCompleted c.now)))
      ({ d with lastSweep := some d.now }.announce (.schedule (.sweepCompleted d.now))) :=
    hlast.announce_of_eq (by rw [h.now])
  have hdue : dueAfter c.now s.options.interval = dueAfter d.now s.options.interval := by rw [h.now]
  refine Beside.finish (Beside.report ?_ _) s
  refine .ite ?_ ?_ hsaid
  · show (c.armed && s.options.continuous) = true ↔ (d.armed && s.options.continuous) = true
    rw [h.armed]
  · show Beside σ (Census.setNextSweep _ (some (dueAfter c.now s.options.interval))) _
    rw [hdue]
    exact hsaid.setNextSweep _

theorem embark (h : Beside σ c d) (s : Sweep) : Beside σ (c.embark (s.renumber σ)) (d.embark s) := by
  obtain ⟨id, φ, pauses, o, targets, total, permits, sent, answered⟩ := s
  cases φ with
  | queued p =>
      have hon : Beside σ { c with sweeping := true } { d with sweeping := true } :=
        { h with sweeping := rfl }
      refine Beside.ite (p := c.sweeping = true) (q := d.sweeping = true) (by rw [h.sweeping]) ?_ ?_
      · exact h.putSweep (by rw [h.inventory]; rfl)
      · refine (hon.announce (.sweeping true)).putSweep ?_
        simp only [Census.announce, h.pauses, h.options]
        rfl
  | _ => exact h

theorem complainInvalid (h : Beside σ c d) (names : List String) :
    Beside σ (c.complainInvalid names) (d.complainInvalid names) := by
  unfold Census.complainInvalid
  induction names generalizing c d with
  | nil => exact h
  | cons name names ih =>
      rw [List.foldl_cons, List.foldl_cons]
      refine ih ?_
      cases Subnet.read name with
      | ok _ => exact h
      | error e => exact h.complain _

theorem setOut (h : Beside σ c d) (s : Sweep) (subnets : List (String × Subnet)) :
    Beside σ (c.setOut (s.renumber σ) subnets) (d.setOut s subnets) :=
  have hoff : Beside σ { c with inventory := c.inventory.allOffline }
      { d with inventory := d.inventory.allOffline } :=
    { h with inventory := congrArg Inventory.allOffline h.inventory }
  .ite Iff.rfl ((hoff.report _).crash rfl) ((hoff.report _).putSweep rfl)

theorem listed (h : Beside σ c d) (s : Sweep) (names : List String) :
    Beside σ (c.listed (s.renumber σ) names) (d.listed s names) := by
  have hsaid := h.complainInvalid names
  refine .ite Iff.rfl (hsaid.abort s _) (.ite ?_ (hsaid.finish s) (hsaid.setOut s _))
  rw [hsaid.pauses]
  rfl

theorem unlisted (h : Beside σ c d) (s : Sweep) (e : SubnetError) :
    Beside σ (c.unlisted (s.renumber σ) e) (d.unlisted s e) := h.abort s _

theorem dispatch (h : Beside σ c d) (s : Sweep) (t : Sweep.Target) (rest : List Sweep.Target) :
    Beside σ (c.dispatch (s.renumber σ) t rest) (d.dispatch s t rest) := by
  have hsent : Beside σ
      { c with
        probes :=
          c.probes ++ [⟨c.fresh, σ s.id, t.address, s.options.pingTimeoutMillis.toNat, false⟩]
        fresh := c.fresh + 1
        dispatched := c.dispatched + 1 }
      { d with
        probes :=
          d.probes ++ [⟨d.fresh, s.id, t.address, s.options.pingTimeoutMillis.toNat, false⟩]
        fresh := d.fresh + 1
        dispatched := d.dispatched + 1 } :=
    { h with
      fresh := h.fresh_succ
      dispatched := congrArg (· + 1) h.dispatched
      probes := by
        rw [h.probes, ← h.fresh_eq, List.map_append]
        rfl }
  refine .ite Iff.rfl (hsent.crash rfl) (.ite Iff.rfl ?_ (hsent.putSweep rfl))
  refine .ite Iff.rfl ((hsent.report _).putSweep rfl) ((hsent.report _).putSweep ?_)
  simp only [Census.report, Census.announce, h.now]
  rfl

theorem dispatchNext (h : Beside σ c d) (s : Sweep) :
    Beside σ (c.dispatchNext (s.renumber σ)) (d.dispatchNext s) := by
  obtain ⟨id, φ, pauses, o, targets, total, permits, sent, answered⟩ := s
  cases targets with
  | nil => exact h.putSweep rfl
  | cons t rest =>
      refine Beside.ite (p := c.pauses ≠ pauses) (q := d.pauses ≠ pauses) (by rw [h.pauses]) ?_ ?_
      · exact h.putSweep rfl
      · exact h.dispatch ⟨id, φ, pauses, o, t :: rest, total, permits, sent, answered⟩ t rest

/-! ### Probing -/

theorem ping (h : Beside σ c d) (p : Probe) : Beside σ (c.ping (p.renumber σ)) (d.ping p) :=
  { h with
    probes := by
      unfold Census.ping
      rw [h.probes]
      exact map_renumber (f := Probe.renumber σ) (g := fun q => { q with begun := true })
        (k := fun q => { q with begun := true }) (fun _ => h.num_eq) (fun _ => rfl) d.probes
    pings := h.pings.cons_cons _ }

theorem release (h : Beside σ c d) (p : Probe) (answered : Bool) :
    Beside σ (c.release (p.renumber σ) answered) (d.release p answered) := by
  let f : Sweep → Sweep := fun s =>
    { s with permits := s.permits + 1, answered := s.answered + answered.toNat }
  exact { h with
    probes := by
      unfold Census.release
      rw [h.probes]
      exact filter_renumber (f := Probe.renumber σ)
        (fun _ => decide_eq_decide.mpr (not_congr h.num_eq)) d.probes
    sweeps := by
      unfold Census.release
      rw [h.sweeps]
      exact map_renumber (f := Sweep.renumber σ) (g := f) (k := f) (fun _ => h.num_eq)
        (fun _ => rfl) d.sweeps }

theorem miss (h : Beside σ c d) (a : Address) : Beside σ (c.miss a) (d.miss a) := by
  unfold Census.miss
  rw [h.inventory]
  cases d.inventory.find? a with
  | none => exact h
  | some known =>
      have hoff : Beside σ { c with inventory := d.inventory.offline a }
          { d with inventory := d.inventory.offline a } := { h with inventory := rfl }
      exact hoff.tell _

theorem meet (h : Beside σ c d) (x : Device) : Beside σ (c.meet x) (d.meet x) := by
  have hin : Beside σ { c with inventory := d.inventory.absorb x }
      { d with inventory := d.inventory.absorb x } := { h with inventory := rfl }
  unfold Census.meet
  rw [h.inventory]
  exact hin.tell _

theorem endProbe (h : Beside σ c d) (p : Probe) (o : Outcome) :
    Beside σ (c.endProbe (p.renumber σ) o) (d.endProbe p o) := by
  cases o with
  | missed => exact (h.miss p.address).release p false
  | found f =>
      have hmet := (h.meet (f.device p.address d.now)).release p true
      show Beside σ ((c.meet (f.device p.address c.now)).release (p.renumber σ) true) _
      rw [h.now]
      exact hmet
  | crashed => exact h.release p false

end Beside

end LanCensus
