/-
# LanCensus.Proofs.Census.Steering -- what a turn can change

What a census does next depends on some of its fields only: the clock, the options, the flags, the
deadline, the timer, and the sweeps and probes under way. `Steering` is that part. What has been
announced, the inventory and the counters follow from it and never lead it.

`Moves` says in one place all that a turn can do to the steering, each case with the condition under
which it happens, and `take_moves` is its proof. What is shown of runs goes by cases on it and opens
no turn again.
-/

import LanCensus.Census.Run
import Mathlib.Logic.Basic

namespace LanCensus

namespace Sweep.Phase

/-- Whether the sweep has been asked for and has not begun. -/
def isQueued : Phase → Bool
  | .queued _ => true
  | _ => false

/-- Whether the sweep has begun and is not over. -/
def inFlight : Phase → Bool
  | .queued _ | .ended _ | .crashed => false
  | _ => true

theorem exists_queued {φ : Phase} (h : φ.isQueued = true) : ∃ p, φ = .queued p := by
  cases φ with
  | queued p => exact ⟨p, rfl⟩
  | _ => cases h

end Sweep.Phase

/-- Whether a turn starts sweeping, after a pause or not. -/
def Turn.isStart : Turn → Bool
  | .start | .resume => true
  | _ => false

/-! ## The steering of a census -/

/-- **`Steering`** — the part of a census that decides what can happen next. -/
structure Steering where
  now : Instant
  options : Sweep.Options
  armed : Bool
  sweeping : Bool
  pauses : Nat
  nextSweep : Option Instant
  timer : Option Timer
  sweeps : List Sweep
  probes : List Probe
  fresh : Nat

/-- The steering of a census. -/
def Census.steering (c : Census) : Steering where
  now := c.now
  options := c.options
  armed := c.armed
  sweeping := c.sweeping
  pauses := c.pauses
  nextSweep := c.nextSweep
  timer := c.timer
  sweeps := c.sweeps
  probes := c.probes
  fresh := c.fresh

namespace Steering

/-- The sweep with the given number. -/
def sweep? (σ : Steering) (id : Nat) : Option Sweep := σ.sweeps.find? (·.id == id)

/-- The probe with the given number. -/
def probe? (σ : Steering) (id : Nat) : Option Probe := σ.probes.find? (·.id == id)

/-- The phase of the sweep with the given number. -/
def phase? (σ : Steering) (id : Nat) : Option Sweep.Phase := (σ.sweep? id).map (·.phase)

/-- The sweep takes the place of the one with its number. -/
def put (σ : Steering) (s : Sweep) : Steering :=
  { σ with sweeps := σ.sweeps.map fun t => if t.id = s.id then s else t }

/-- A sweep has been asked for. -/
def ask (σ : Steering) (pauses : Option Nat) : Steering :=
  { σ with sweeps := .queued σ.fresh pauses σ.options :: σ.sweeps, fresh := σ.fresh + 1 }

/-- Nothing is armed and nothing is due. -/
def unarm (σ : Steering) : Steering := { σ with armed := false, timer := none, nextSweep := none }

/-- The sweep has ended with the inventory `l`. -/
def conclude (σ : Steering) (s : Sweep) (l : List Device) : Steering :=
  ({ σ with armed := σ.armed && σ.options.continuous, sweeping := false }).put
    { s with phase := .ended l }

/-- The sweep has failed beyond recovery. -/
def fail (σ : Steering) (s : Sweep) : Steering :=
  ({ σ with sweeping := false, probes := σ.probes.filter (·.sweep ≠ s.id) }).put
    { s with phase := .crashed }

/-- The next sweep is due one interval of the options of `s` from now, if sweeps go on. -/
def publish (σ : Steering) (s : Sweep) : Steering :=
  if σ.armed && s.options.continuous then
    { σ with nextSweep := some (dueAfter σ.now s.options.interval) }
  else σ

/-- Whether nothing is due after now. -/
def nothingAhead (σ : Steering) : Bool :=
  match σ.nextSweep with
  | none => true
  | some due => due ≤ σ.now

/-- Makes sure that a sweep is due later. -/
def planAhead (σ : Steering) : Steering :=
  if σ.nothingAhead then { σ with nextSweep := some (dueAfter σ.now σ.options.interval) } else σ

/-- A probe of the target has been dispatched for the sweep. -/
def launch (σ : Steering) (s : Sweep) (x : Sweep.Target) : Steering :=
  { σ with
    probes :=
      σ.probes ++ [⟨σ.fresh, s.id, x.address, s.options.pingTimeoutMillis.toNat, false⟩]
    fresh := σ.fresh + 1 }

/-- The probe is over, and its sweep has its permit back. -/
def release (σ : Steering) (p : Probe) (answered : Bool) : Steering :=
  { σ with
    probes := σ.probes.filter (·.id ≠ p.id)
    sweeps := σ.sweeps.map fun s =>
      if s.id = p.sweep then
        { s with permits := s.permits + 1, answered := s.answered + answered.toNat }
      else s }

/-- Publishing changes the deadline and nothing else. -/
theorem publish_eq (σ : Steering) (s : Sweep) : ∃ n, σ.publish s = { σ with nextSweep := n } := by
  unfold publish
  split
  · exact ⟨_, rfl⟩
  · exact ⟨σ.nextSweep, rfl⟩

/-- Planning ahead changes the deadline and nothing else, and leaves one. -/
theorem planAhead_eq (σ : Steering) : ∃ n, σ.planAhead = { σ with nextSweep := some n } := by
  unfold planAhead
  split
  · exact ⟨_, rfl⟩
  · next h =>
    cases hn : σ.nextSweep with
    | none =>
        rw [nothingAhead, hn] at h
        exact absurd rfl h
    | some n =>
        refine ⟨n, ?_⟩
        rw [← hn]

end Steering

/-! ## Operations and the steering -/

namespace Census

@[simp] theorem steering_announce (c : Census) (n : Notice) :
    (c.announce n).steering = c.steering := rfl

@[simp] theorem steering_setNextSweep (c : Census) (due : Option Instant) :
    (c.setNextSweep due).steering = { c.steering with nextSweep := due } := by
  unfold setNextSweep
  split
  · next h => simp only [steering, ← h]
  · rfl

@[simp] theorem steering_putSweep (c : Census) (s : Sweep) :
    (c.putSweep s).steering = c.steering.put s := rfl

@[simp] theorem steering_putTimer (c : Census) (t : Timer) :
    (c.putTimer t).steering = { c.steering with timer := some t } := rfl

@[simp] theorem steering_requestSweep (c : Census) (p : Option Nat) :
    (c.requestSweep p).steering = c.steering.ask p := rfl

@[simp] theorem steering_complainInvalid (c : Census) (names : List String) :
    (c.complainInvalid names).steering = c.steering := by
  unfold complainInvalid
  induction names generalizing c with
  | nil => rfl
  | cons name names ih =>
      rw [List.foldl_cons, ih]
      cases Subnet.read name <;> rfl

@[simp] theorem steering_disarm (c : Census) : c.disarm.steering = c.steering.unarm := by
  unfold disarm
  rw [steering_setNextSweep]
  rfl

theorem steering_finish (c : Census) (s : Sweep) :
    (c.finish s).steering = c.steering.conclude s c.inventory.toList := rfl

@[simp] theorem nothingAhead_steering (c : Census) : c.steering.nothingAhead = c.nothingAhead := rfl

@[simp] theorem steering_planAhead (c : Census) : c.planAhead.steering = c.steering.planAhead := by
  unfold planAhead Steering.planAhead
  rw [nothingAhead_steering]
  split
  · exact steering_setNextSweep ..
  · rfl

theorem steering_complete (c : Census) (s : Sweep) :
    ∃ l, (c.complete s).steering = (c.steering.publish s).conclude s l := by
  refine ⟨_, (steering_finish _ s).trans (congrArg (Steering.conclude · s _) ?_)⟩
  unfold Steering.publish
  by_cases h : (c.armed && s.options.continuous) = true
  · simp only [report, announce, steering, h]
    exact steering_setNextSweep ..
  · simp only [report, announce, steering, h]
    rfl

end Census

/-! ## All that a turn can do -/

/-- Whether a listing leaves a sweep without subnets. -/
def NoSubnets : Except SubnetError (List String) → Prop
  | .ok names => Census.named names = []
  | .error _ => True

/-- **`Moves σ t τ`** — a turn `t` can lead from the steering `σ` to `τ`. -/
inductive Moves (σ : Steering) : Turn → Steering → Prop
  -- Requests of the owner.
  | keepArmed {t : Turn} : t.isStart = true → σ.armed = true → Moves σ t σ
  | armTimer {t : Turn} : t.isStart = true → σ.armed = false → σ.options.continuous = true →
      Moves σ t
        { σ with armed := true, nextSweep := none, timer := some ⟨σ.pauses, .ringing, none, true⟩ }
  | armOnce {t : Turn} : t.isStart = true → σ.armed = false → σ.options.continuous = false →
      Moves σ t (({ σ with armed := true }).ask (some σ.pauses))
  | pause : Moves σ .pause { σ.unarm with pauses := σ.pauses + 1 }
  | refuse {o : Sweep.Options} : ¬ o.IsValid → Moves σ (.setOptions o) σ
  | adopt {o : Sweep.Options} : o.IsValid → o.continuous = true →
      Moves σ (.setOptions o) { σ with options := o }
  | disband {o : Sweep.Options} : o.IsValid → o.continuous = false →
      Moves σ (.setOptions o) { σ.unarm with options := o }
  | remove {a : Address} : Moves σ (.remove a) σ
  | request : Moves σ .requestSweep (σ.ask none)
  | lookUp {text : String} {n : Nat} : σ.fresh ≤ n → Moves σ (.lookUp text) { σ with fresh := n }
  | endLookup {id : Nat} {o : Outcome} : Moves σ (.endLookup id o) σ
  -- A sweep begins, and learns of the subnets.
  | turnAway {s : Sweep} {p : Option Nat} {l : List Device} :
      σ.sweep? s.id = some s → s.phase = .queued p → σ.sweeping = true →
      Moves σ (.embark s.id) (σ.put { s with phase := .ended l })
  | embark {s : Sweep} {p : Option Nat} :
      σ.sweep? s.id = some s → s.phase = .queued p → σ.sweeping = false →
      Moves σ (.embark s.id)
        (({ σ with sweeping := true }).put
          { s with phase := .listing, pauses := p.getD σ.pauses, options := σ.options })
  | abort {s : Sweep} {names : Except SubnetError (List String)} {l : List Device} :
      σ.sweep? s.id = some s → s.phase = .listing → NoSubnets names →
      Moves σ (.list s.id names) (σ.conclude s l)
  | callOff {s : Sweep} {names : List String} {l : List Device} :
      σ.sweep? s.id = some s → s.phase = .listing → Census.named names ≠ [] →
      σ.pauses ≠ s.pauses → Moves σ (.list s.id (.ok names)) (σ.conclude s l)
  | overload {s : Sweep} {names : List String} :
      σ.sweep? s.id = some s → s.phase = .listing → Census.named names ≠ [] →
      σ.pauses = s.pauses → Census.permitLimit < s.options.maxProbes.toNat →
      Moves σ (.list s.id (.ok names)) (σ.fail s)
  | setOut {s : Sweep} {names : List String} :
      σ.sweep? s.id = some s → s.phase = .listing → Census.named names ≠ [] →
      σ.pauses = s.pauses → s.options.maxProbes.toNat ≤ Census.permitLimit →
      Moves σ (.list s.id (.ok names))
        (σ.put { s with
          phase := .ready
          targets := Census.targetsOf s.options (Census.named names)
          total := (Census.named names).length * s.options.octetCount
          permits := s.options.maxProbes.toNat })
  | collapse {s : Sweep} : σ.sweep? s.id = some s → s.phase = .listing →
      Moves σ (.collapse s.id) (σ.fail s)
  -- A sweep goes on.
  | await {s : Sweep} : σ.sweep? s.id = some s → s.phase = .ready → s.targets ≠ [] →
      σ.pauses = s.pauses → s.permits = 0 →
      Moves σ (.proceed s.id) (σ.put { s with phase := .waiting })
  | stop {s : Sweep} : σ.sweep? s.id = some s → s.phase = .ready ∨ s.phase = .waiting →
      s.targets = [] ∨ σ.pauses ≠ s.pauses →
      Moves σ (.proceed s.id) (σ.put { s with phase := .draining })
  | dispatch {s : Sweep} {x : Sweep.Target} {rest : List Sweep.Target} {φ : Sweep.Phase} :
      σ.sweep? s.id = some s → s.phase = .ready ∨ s.phase = .waiting → s.targets = x :: rest →
      σ.pauses = s.pauses → 0 < s.permits → φ = .ready ∨ (∃ w, φ = .resting w) →
      Moves σ (.proceed s.id)
        ((σ.launch s x).put { s with
          phase := φ, targets := rest, permits := s.permits - 1, dispatched := s.dispatched + 1 })
  | stumble {s : Sweep} {x : Sweep.Target} {rest : List Sweep.Target} :
      σ.sweep? s.id = some s → s.phase = .ready ∨ s.phase = .waiting → s.targets = x :: rest →
      s.options.batchSize = 0 →
      Moves σ (.proceed s.id)
        ((σ.launch s x).fail { s with
          targets := rest, permits := s.permits - 1, dispatched := s.dispatched + 1 })
  | wake {s : Sweep} {w : Instant} : σ.sweep? s.id = some s → s.phase = .resting w → w ≤ σ.now →
      Moves σ (.proceed s.id) (σ.put { s with phase := .ready })
  | complete {s : Sweep} {l : List Device} : σ.sweep? s.id = some s → s.phase = .draining →
      (∀ p ∈ σ.probes, p.sweep ≠ s.id) → Moves σ (.proceed s.id) ((σ.publish s).conclude s l)
  -- Probes.
  | ping {p : Probe} : σ.probe? p.id = some p → p.begun = false →
      Moves σ (.ping p.id)
        { σ with probes := σ.probes.map fun q => if q.id = p.id then { q with begun := true } else q }
  | endProbe {p : Probe} {o : Outcome} {b : Bool} : σ.probe? p.id = some p → p.begun = true →
      Moves σ (.endProbe p.id o) (σ.release p b)
  -- The timer and the clock.
  | alarmOff {t : Timer} : σ.timer = some t → t.alarm = .ringing → σ.pauses ≠ t.pauses →
      Moves σ .alarm { σ with timer := some { t with alarm := .off } }
  | alarmSet {t : Timer} {due : Instant} : σ.timer = some t → t.alarm = .ringing →
      σ.pauses = t.pauses → σ.nextSweep = some due → ¬ due ≤ σ.now →
      Moves σ .alarm { σ with timer := some { t with alarm := .set due } }
  | alarmBusy {t : Timer} : σ.timer = some t → t.alarm = .ringing → σ.pauses = t.pauses →
      σ.nothingAhead = true → σ.sweeping = true →
      Moves σ .alarm { σ.planAhead with timer := some { t with alarm := .ringing } }
  | alarmAsk {t : Timer} : σ.timer = some t → t.alarm = .ringing → σ.pauses = t.pauses →
      σ.nothingAhead = true → σ.sweeping = false →
      Moves σ .alarm
        { σ.ask (some t.pauses) with timer := some { t with alarm := .following σ.fresh } }
  | alarmRing {t : Timer} {w : Instant} : σ.timer = some t → t.alarm = .set w → w ≤ σ.now →
      Moves σ .alarm { σ with timer := some { t with alarm := .ringing } }
  | alarmFollow {t : Timer} {id : Nat} : σ.timer = some t → t.alarm = .following id →
      (σ.sweep? id).all (·.phase.isOver) = true →
      Moves σ .alarm { σ.planAhead with timer := some { t with alarm := .ringing } }
  | tickOff {t : Timer} : σ.timer = some t → σ.pauses ≠ t.pauses →
      Moves σ .tick { σ with timer := some { t with ticking := false } }
  | tick {t : Timer} {k : Option Instant} : σ.timer = some t → σ.pauses = t.pauses →
      Moves σ .tick { σ with timer := some { t with tick := k } }
  | pass {n : Instant} : σ.now ≤ n → Moves σ (.pass n) { σ with now := n }

namespace Steering

theorem id_of_sweep? {σ : Steering} {id : Nat} {s : Sweep} (h : σ.sweep? id = some s) :
    s.id = id := by
  have := List.find?_some h
  exact beq_iff_eq.mp this

theorem id_of_probe? {σ : Steering} {id : Nat} {p : Probe} (h : σ.probe? id = some p) :
    p.id = id := by
  have := List.find?_some h
  exact beq_iff_eq.mp this

end Steering

namespace Census

variable {c e : Census}

theorem pauses_setNextSweep (c : Census) (due : Option Instant) :
    (c.setNextSweep due).pauses = c.pauses :=
  congrArg Steering.pauses (steering_setNextSweep c due)

theorem moves_arm {t : Turn} (ht : t.isStart = true) (m : String) :
    Moves c.steering t (c.arm m).steering := by
  unfold arm
  by_cases ha : c.armed = true
  · rw [if_pos ha]
    exact .keepArmed ht ha
  · rw [if_neg ha]
    have ha' : c.armed = false := Bool.eq_false_iff.mpr ha
    by_cases ho : c.options.continuous = true
    -- The new timer takes its pauses from the census after the deadline is withdrawn.
    · have h := Moves.armTimer (σ := c.steering) ht ha' ho
      simp only [report, announce, ho, if_true]
      rw [← putTimer, steering_putTimer, steering_setNextSweep, freshTimer, pauses_setNextSweep]
      exact h
    · have h := Moves.armOnce (σ := c.steering) ht ha' (Bool.eq_false_iff.mpr ho)
      simp only [report, announce, ho]
      exact h

theorem steering_pause (c : Census) :
    c.pause.steering = { c.steering.unarm with pauses := c.pauses + 1 } := by
  unfold pause
  simp only [apply_ite steering, report, steering_announce, steering_disarm, ite_self]
  rfl

theorem moves_pause : Moves c.steering .pause c.pause.steering := by
  rw [steering_pause]
  exact .pause

theorem moves_setOptions (o : Sweep.Options) :
    Moves c.steering (.setOptions o) ((c.setOptions o).toOption.getD c).steering := by
  unfold setOptions
  cases hc : o.check with
  | error e =>
      apply Moves.refuse
      intro hv
      rw [Sweep.Options.IsValid, hc] at hv
      cases hv
  | ok u =>
      have hv : o.IsValid := hc
      simp only [bind, Except.bind, pure, Except.pure]
      by_cases ho : o.continuous = true
      · simp only [ho, if_true]
        exact .adopt hv ho
      · have hd : ({ c with options := o } : Census).disarm.steering =
            { c.steering.unarm with options := o } := by
          rw [steering_disarm]
          rfl
        have h := Moves.disband (σ := c.steering) hv (Bool.eq_false_iff.mpr ho)
        rw [← hd] at h
        by_cases ha : c.armed = true
        · simp only [ho, ha, if_true]
          exact h
        · simp only [ho, ha]
          exact h

theorem moves_embark {s : Sweep} {p : Option Nat} (hs : c.steering.sweep? s.id = some s)
    (hp : s.phase = .queued p) : Moves c.steering (.embark s.id) (c.embark s).steering := by
  unfold embark
  rw [hp]
  by_cases hb : c.sweeping = true
  · simp only [hb, if_true]
    exact .turnAway hs hp hb
  · simp only [hb]
    exact .embark hs hp (Bool.eq_false_iff.mpr hb)

theorem moves_unlisted {s : Sweep} (hs : c.steering.sweep? s.id = some s)
    (hp : s.phase = .listing) (x : SubnetError) :
    Moves c.steering (.list s.id (.error x)) (c.unlisted s x).steering :=
  .abort hs hp trivial

theorem moves_listed {s : Sweep} (hs : c.steering.sweep? s.id = some s) (hp : s.phase = .listing)
    (names : List String) :
    Moves c.steering (.list s.id (.ok names)) (c.listed s names).steering := by
  -- The complaints are notices; the steering is what it was before them.
  have hc : (c.complainInvalid names).steering = c.steering := steering_complainInvalid c names
  have hpauses : (c.complainInvalid names).pauses = c.pauses := congrArg Steering.pauses hc
  unfold listed
  by_cases hn : named names = []
  · simp only [hn, List.isEmpty_nil, if_true]
    have hno : NoSubnets (.ok names) := hn
    have h := Moves.abort (l := (c.complainInvalid names).inventory.toList) hs hp hno
    rw [← hc] at h ⊢
    exact h
  · simp only [List.isEmpty_iff, hn, if_false, hpauses]
    by_cases hq : c.pauses ≠ s.pauses
    · rw [if_pos hq, steering_finish, hc]
      exact .callOff hs hp hn hq
    · rw [if_neg hq]
      have hq' : c.pauses = s.pauses := not_not.mp hq
      unfold setOut
      by_cases hm : permitLimit < s.options.maxProbes.toNat
      · simp only [hm, if_true]
        have h := Moves.overload hs hp hn hq' hm
        rw [← hc] at h ⊢
        exact h
      · simp only [hm, if_false]
        have h := Moves.setOut hs hp hn hq' (Nat.le_of_not_lt hm)
        rw [← hc] at h ⊢
        exact h

theorem moves_dispatch {s : Sweep} (hs : c.steering.sweep? s.id = some s)
    (hp : s.phase = .ready ∨ s.phase = .waiting) {x : Sweep.Target} {rest : List Sweep.Target}
    (hx : s.targets = x :: rest) (hq : c.pauses = s.pauses) (hf : 0 < s.permits) :
    Moves c.steering (.proceed s.id) (c.dispatch s x rest).steering := by
  unfold dispatch
  by_cases hb : s.options.batchSize = 0
  · simp only [hb, if_true]
    exact .stumble hs hp hx hb
  · simp only [hb, if_false]
    by_cases hd : (s.dispatched + 1) % s.options.batchSize.toNat = 0
    · simp only [hd, if_true]
      by_cases ht : s.options.throttleMillis = 0
      · simp only [ht, if_true]
        exact .dispatch hs hp hx hq hf (.inl rfl)
      · simp only [ht, if_false]
        exact .dispatch hs hp hx hq hf (.inr ⟨_, rfl⟩)
    · simp only [hd, if_false]
      exact .dispatch hs hp hx hq hf (.inl rfl)

theorem moves_dispatchNext {s : Sweep} (hs : c.steering.sweep? s.id = some s)
    (hp : s.phase = .ready ∨ s.phase = .waiting)
    (hf : s.targets = [] ∨ c.pauses ≠ s.pauses ∨ 0 < s.permits) :
    Moves c.steering (.proceed s.id) (c.dispatchNext s).steering := by
  unfold dispatchNext
  split
  · next hx => exact .stop hs hp (.inl hx)
  · next x rest hx =>
    -- An address is left, so a pause is all that can keep the sweep from it.
    by_cases hq : c.pauses ≠ s.pauses
    · rw [if_pos hq]
      exact .stop hs hp (.inr hq)
    · rw [if_neg hq]
      have hfree : 0 < s.permits := by
        rcases hf with h | h | h
        · rw [hx] at h
          cases h
        · exact absurd h hq
        · exact h
      exact moves_dispatch hs hp hx (not_not.mp hq) hfree

theorem moves_proceed {s : Sweep} (hs : c.steering.sweep? s.id = some s)
    (h : c.proceed s = some e) : Moves c.steering (.proceed s.id) e.steering := by
  -- The cases are the phases: ready, waiting, resting, draining, and those without such a turn.
  unfold proceed at h
  split at h
  · next hp =>
    by_cases hf : s.targets = [] ∨ c.pauses ≠ s.pauses ∨ 0 < s.permits
    · have hg : (s.targets.isEmpty || c.pauses ≠ s.pauses || 0 < s.permits) = true := by
        simpa [or_assoc] using hf
      rw [if_pos hg] at h
      cases h
      exact moves_dispatchNext hs (.inl hp) hf
    · have hg : ¬ (s.targets.isEmpty || c.pauses ≠ s.pauses || 0 < s.permits) = true := by
        simpa [or_assoc] using hf
      rw [if_neg hg] at h
      cases h
      rw [not_or, not_or, not_not, Nat.pos_iff_ne_zero, not_not] at hf
      exact .await hs hp hf.1 hf.2.1 hf.2.2
  · next hp =>
    by_cases hf : 0 < s.permits
    · rw [if_pos hf] at h
      cases h
      exact moves_dispatchNext hs (.inr hp) (.inr (.inr hf))
    · rw [if_neg hf] at h
      cases h
  · next w hp =>
    by_cases hw : w ≤ c.now
    · rw [if_pos hw] at h
      cases h
      exact .wake hs hp hw
    · rw [if_neg hw] at h
      cases h
  · next hp =>
    by_cases hn : c.hasProbes s = true
    · rw [if_pos hn] at h
      cases h
    · rw [if_neg hn] at h
      cases h
      obtain ⟨l, hl⟩ := steering_complete c s
      rw [hl]
      -- The turn was not held back, so no probe belongs to the sweep.
      refine .complete hs hp fun p hm he => hn ?_
      exact List.any_eq_true.mpr ⟨p, hm, beq_iff_eq.mpr he⟩
  · cases h

theorem moves_endProbe {p : Probe} (hp : c.steering.probe? p.id = some p) (hb : p.begun = true)
    (o : Outcome) : Moves c.steering (.endProbe p.id o) (c.endProbe p o).steering := by
  cases o with
  | missed =>
      have hm : (c.miss p.address).steering = c.steering := by
        unfold miss
        split <;> rfl
      show Moves _ _ (Steering.release (c.miss p.address).steering p false)
      rw [hm]
      exact .endProbe hp hb
  | found f => exact Moves.endProbe (σ := c.steering) (b := true) hp hb
  | crashed => exact Moves.endProbe (σ := c.steering) (b := false) hp hb

theorem moves_lookUp (text : String) :
    Moves c.steering (.lookUp text) (c.beginLookup text).steering := by
  unfold beginLookup
  split
  · exact Moves.lookUp (σ := c.steering) (Nat.le_refl _)
  · exact Moves.lookUp (σ := c.steering) (Nat.le_succ _)

theorem moves_endLookup (l : Lookup) (id : Nat) (o : Outcome) :
    Moves c.steering (.endLookup id o) (c.endLookup l o).steering := by
  unfold endLookup
  simp only
  split <;> exact .endLookup

theorem moves_remove (a : Address) : Moves c.steering (.remove a) (c.remove a).steering := by
  unfold remove
  split <;> exact .remove

theorem moves_ring {t : Timer} (ht : c.timer = some t) (ha : t.alarm = .ringing) :
    Moves c.steering .alarm (c.ring t).steering := by
  unfold ring
  by_cases hq : c.pauses ≠ t.pauses
  · rw [if_pos hq]
    exact .alarmOff ht ha hq
  rw [if_neg hq]
  have hq' : c.pauses = t.pauses := not_not.mp hq
  by_cases hn : c.nothingAhead = true
  · simp only [hn, Bool.not_true, Bool.false_eq_true, if_false]
    by_cases hb : c.sweeping = true
    · simp only [hb, if_true, steering_putTimer, steering_planAhead]
      exact .alarmBusy ht ha hq' hn hb
    · simp only [hb]
      exact .alarmAsk ht ha hq' hn (Bool.eq_false_iff.mpr hb)
  · simp only [hn, Bool.not_false, if_true, steering_putTimer]
    cases hd : c.nextSweep with
    | none =>
        rw [nothingAhead, hd] at hn
        exact absurd rfl hn
    | some due =>
        refine .alarmSet ht ha hq' hd fun hle => hn ?_
        rw [nothingAhead, hd]
        exact decide_eq_true hle

theorem moves_alarm (h : c.timerTurn = some e) : Moves c.steering .alarm e.steering := by
  unfold timerTurn at h
  cases ht : c.timer with
  | none =>
      rw [ht] at h
      cases h
  | some t =>
      -- The alarm rings, is set to an instant, follows a sweep, or is off.
      rw [ht, Option.bind_eq_bind, Option.bind_some] at h
      split at h
      · next ha =>
        cases h
        exact moves_ring ht ha
      · next w ha =>
        by_cases hw : w ≤ c.now
        · rw [if_pos hw] at h
          cases h
          exact .alarmRing ht ha hw
        · rw [if_neg hw] at h
          cases h
      · next id ha =>
        by_cases ho : (c.sweep? id).all (·.phase.isOver) = true
        · rw [if_pos ho] at h
          cases h
          rw [steering_putTimer, steering_planAhead]
          exact .alarmFollow ht ha ho
        · rw [if_neg ho] at h
          cases h
      · cases h

theorem steering_countDown (c : Census) : c.countDown.steering = c.steering := by
  unfold countDown
  split <;> rfl

theorem moves_tick (h : c.tickTurn = some e) : Moves c.steering .tick e.steering := by
  unfold tickTurn at h
  cases ht : c.timer with
  | none =>
      rw [ht] at h
      cases h
  | some t =>
      rw [ht, Option.bind_eq_bind, Option.bind_some] at h
      simp only at h
      split at h
      · cases h
      · split at h
        · next hq =>
          cases h
          exact .tickOff ht hq
        · next hq =>
          cases h
          rw [steering_putTimer, steering_countDown]
          exact .tick ht (not_not.mp hq)

/-- What becomes of a sweep that has asked for the subnets concerns a sweep that lists them. -/
theorem settleListing_eq_some {id : Nat} {f : Sweep → Census}
    (h : c.settleListing id f = some e) :
    ∃ s, c.steering.sweep? s.id = some s ∧ s.id = id ∧ s.phase = .listing ∧ e = f s := by
  unfold settleListing at h
  cases hs : c.sweep? id with
  | none =>
      rw [hs] at h
      cases h
  | some s =>
      rw [hs, Option.bind_eq_bind, Option.bind_some] at h
      have hid : s.id = id := Steering.id_of_sweep? (σ := c.steering) hs
      split at h
      · next hp =>
        cases h
        subst hid
        exact ⟨s, hs, rfl, hp, rfl⟩
      · cases h

/-- **`take_moves`** — every turn that can be taken moves the steering in one of the ways of
`Moves`. -/
theorem take_moves {t : Turn} (h : c.take t = some e) : Moves c.steering t e.steering := by
  cases t with
  | start =>
      cases h
      exact moves_arm rfl _
  | resume =>
      cases h
      exact moves_arm rfl _
  | pause =>
      cases h
      exact moves_pause
  | setOptions o =>
      cases h
      exact moves_setOptions o
  | remove a =>
      cases h
      exact moves_remove a
  | requestSweep =>
      cases h
      exact .request
  | lookUp text =>
      cases h
      exact moves_lookUp text
  | embark id =>
      cases hs : c.sweep? id with
      | none =>
          simp [take, hs] at h
      | some s =>
          have hid : s.id = id := Steering.id_of_sweep? (σ := c.steering) hs
          subst hid
          simp only [take, hs, Option.bind_eq_bind, Option.bind_some] at h
          split at h
          · next p hp =>
            cases h
            exact moves_embark hs hp
          · cases h
  | list id names =>
      cases names with
      | ok names =>
          obtain ⟨s, hs, rfl, hp, rfl⟩ := settleListing_eq_some h
          exact moves_listed hs hp names
      | error x =>
          obtain ⟨s, hs, rfl, hp, rfl⟩ := settleListing_eq_some h
          exact moves_unlisted hs hp x
  | collapse id =>
      obtain ⟨s, hs, rfl, hp, rfl⟩ := settleListing_eq_some h
      exact .collapse hs hp
  | proceed id =>
      obtain ⟨s, hs, hp⟩ := Option.bind_eq_some_iff.mp h
      have hid : s.id = id := Steering.id_of_sweep? (σ := c.steering) hs
      subst hid
      exact moves_proceed hs hp
  | ping id =>
      cases hp : c.probe? id with
      | none => simp [take, hp] at h
      | some p =>
          have hid : p.id = id := Steering.id_of_probe? (σ := c.steering) hp
          subst hid
          simp only [take, hp, Option.bind_eq_bind, Option.bind_some] at h
          split at h
          · cases h
          · next hb =>
            cases h
            exact .ping hp (Bool.eq_false_iff.mpr hb)
  | endProbe id o =>
      cases hp : c.probe? id with
      | none => simp [take, hp] at h
      | some p =>
          have hid : p.id = id := Steering.id_of_probe? (σ := c.steering) hp
          subst hid
          simp only [take, hp, Option.bind_eq_bind, Option.bind_some] at h
          split at h
          · next hb =>
            cases h
            exact moves_endProbe hp hb o
          · cases h
  | endLookup id o =>
      obtain ⟨l, -, rfl⟩ := Option.map_eq_some_iff.mp h
      exact moves_endLookup l id o
  | alarm => exact moves_alarm h
  | tick => exact moves_tick h
  | pass n =>
      simp only [take] at h
      split at h
      · next hn =>
        cases h
        exact .pass hn
      · cases h

end Census

end LanCensus
