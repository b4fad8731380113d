/-
# LanCensus.Proofs.Census.Turns -- when tasks can go on

A task waits only for what its phase names: a sweep that was asked for can begin, a timer can wake
once its instant has come, and so on. These lemmas say so turn by turn; where the next state matters
they name it, and otherwise it is read off `Moves`.
-/

import LanCensus.Proofs.Census.Order
import LanCensus.Proofs.Instants

namespace LanCensus.Census

variable {c : Census}

/-! ## The clock and the timer -/

theorem take_pass {n : Instant} (hn : c.now ≤ n) : c.take (.pass n) = some { c with now := n } :=
  if_pos hn

theorem take_alarm_of_ringing {t : Timer} (ht : c.timer = some t) (ha : t.alarm = .ringing) :
    c.take .alarm = some (c.ring t) := by
  show c.timerTurn = _
  rw [timerTurn, ht, Option.bind_eq_bind, Option.bind_some]
  simp only [ha]

theorem take_alarm_of_set {t : Timer} {w : Instant} (ht : c.timer = some t)
    (ha : t.alarm = .set w) (hw : w ≤ c.now) :
    c.take .alarm = some (c.putTimer { t with alarm := .ringing }) := by
  show c.timerTurn = _
  rw [timerTurn, ht, Option.bind_eq_bind, Option.bind_some]
  simp only [ha]
  exact if_pos hw

/-- The countdown ticks when it is due. -/
theorem take_tick {t : Timer} (ht : c.timer = some t) (hk : t.ticking = true)
    (hp : t.pauses = c.pauses) (hdue : t.tick.getD c.now ≤ c.now) :
    c.take .tick = some
      (c.countDown.putTimer { t with tick := some (Timer.nextTick (t.tick.getD c.now) c.now) }) := by
  show c.tickTurn = _
  rw [tickTurn, ht, Option.bind_eq_bind, Option.bind_some]
  simp only [hk, hp, Instant.not_lt.mpr hdue]
  simp

/-- A tick that is not due does not come. -/
theorem take_tick_none {t : Timer} (ht : c.timer = some t) {k : Instant} (hk : t.tick = some k)
    (hlt : c.now < k) : c.take .tick = none := by
  show c.tickTurn = _
  rw [tickTurn, ht, Option.bind_eq_bind, Option.bind_some]
  simp only [hk, Option.getD_some, hlt]
  simp

/-- The timer asks for a sweep when the deadline has come and no sweep is in flight. -/
theorem ring_ask {t : Timer} (hp : t.pauses = c.pauses) (hn : c.nothingAhead = true)
    (hs : c.sweeping = false) :
    c.ring t = (c.requestSweep (some t.pauses)).putTimer { t with alarm := .following c.fresh } := by
  rw [ring, if_neg (not_not.mpr hp.symm), hn, hs]
  rfl

/-- The timer makes a plan when the deadline has come and a sweep is in flight. -/
theorem ring_busy {t : Timer} (hp : t.pauses = c.pauses) (hn : c.nothingAhead = true)
    (hs : c.sweeping = true) : c.ring t = c.planAhead.putTimer { t with alarm := .ringing } := by
  rw [ring, if_neg (not_not.mpr hp.symm), hn, hs]
  rfl

/-- The timer sets its alarm to a deadline that lies ahead. -/
theorem ring_set {t : Timer} {due : Instant} (hp : t.pauses = c.pauses)
    (hn : c.nextSweep = some due) (hlt : c.now < due) :
    c.ring t = c.putTimer { t with alarm := .set due } := by
  have hahead : c.nothingAhead = false := by
    rw [nothingAhead, hn]
    exact decide_eq_false (Instant.not_le.mpr hlt)
  rw [ring, if_neg (not_not.mpr hp.symm), hahead, hn]
  rfl

/-! ## Sweeps -/

theorem take_embark {s : Sweep} {p : Option Nat} (hs : c.sweep? s.id = some s)
    (hp : s.phase = .queued p) : c.take (.embark s.id) = some (c.embark s) := by
  rw [take, hs, Option.bind_eq_bind, Option.bind_some]
  simp only [hp]

/-- A sweep that was asked for and has not begun does not wait. -/
theorem AllWait.isQueued (hw : c.AllWait) (ho : Orderly c.steering) {s : Sweep}
    (hs : s ∈ c.sweeps) : s.phase.isQueued = false := by
  apply Bool.eq_false_iff.mpr
  intro hq
  obtain ⟨p, hp⟩ := Sweep.Phase.exists_queued hq
  cases (hw (.embark s.id) rfl).symm.trans (take_embark (ho.sweep?_of_mem hs) hp)

theorem sweep?_requestSweep (c : Census) (p : Option Nat) :
    (c.requestSweep p).sweep? c.fresh = some (.queued c.fresh p c.options) :=
  List.find?_cons_of_pos (beq_self_eq_true c.fresh)

/-- A sweep that begins while no other is in flight is in flight. -/
theorem sweeping_embark {s : Sweep} {p : Option Nat} (hp : s.phase = .queued p)
    (hs : c.sweeping = false) : (c.embark s).sweeping = true := by
  unfold embark
  rw [hp]
  simp only [hs]
  rfl

theorem now_embark (c : Census) (s : Sweep) : (c.embark s).now = c.now := by
  unfold embark
  split
  · split <;> rfl
  · rfl

theorem take_proceed {s : Sweep} (hs : c.sweep? s.id = some s) :
    c.take (.proceed s.id) = c.proceed s := by
  rw [take, hs, Option.bind_some]

/-- A sweep that is about to turn to an address after a pause dispatches no more. -/
theorem proceed_of_paused {s : Sweep}
    (hp : s.phase = .ready ∨ (s.phase = .waiting ∧ 0 < s.permits)) (hq : c.pauses ≠ s.pauses)
    (ht : s.targets ≠ []) : c.proceed s = some (c.putSweep { s with phase := .draining }) := by
  have hnext : c.dispatchNext s = c.putSweep { s with phase := .draining } := by
    unfold dispatchNext
    split
    · next h => exact absurd h ht
    · exact if_pos hq
  rcases hp with hp | ⟨hp, hfree⟩
  · rw [proceed, hp]
    simp only [hnext]
    exact if_pos (by simp [hq])
  · rw [proceed, hp]
    simp only [hnext]
    exact if_pos hfree

theorem proceed_of_resting {s : Sweep} {w : Instant} (hp : s.phase = .resting w)
    (hw : w ≤ c.now) : c.proceed s = some (c.putSweep { s with phase := .ready }) := by
  rw [proceed, hp]
  exact if_pos hw

theorem proceed_of_draining {s : Sweep} (hp : s.phase = .draining) (hno : c.probes = []) :
    c.proceed s = some (c.complete s) := by
  rw [proceed, hp]
  exact if_neg (by simp [hasProbes, hno])

theorem take_list {s : Sweep} (hs : c.sweep? s.id = some s) (hp : s.phase = .listing)
    (names : List String) : c.take (.list s.id (.ok names)) = some (c.listed s names) := by
  rw [take, settleListing, hs, Option.bind_eq_bind, Option.bind_some]
  exact if_pos hp

/-- A sweep that is told its subnets after a pause ends. -/
theorem listed_of_paused {s : Sweep} {names : List String} (hn : named names ≠ [])
    (hq : c.pauses ≠ s.pauses) : c.listed s names = (c.complainInvalid names).finish s := by
  have hpauses : (c.complainInvalid names).pauses = c.pauses :=
    congrArg Steering.pauses (steering_complainInvalid c names)
  unfold listed
  simp only [List.isEmpty_iff, hn, if_false, hpauses]
  exact if_pos hq

/-! ## Probes -/

theorem take_ping {p : Probe} (hp : c.probe? p.id = some p) (hb : p.begun = false) :
    c.take (.ping p.id) = some (c.ping p) := by
  rw [take, hp, Option.bind_eq_bind, Option.bind_some, hb]
  rfl

theorem take_endProbe {p : Probe} (hp : c.probe? p.id = some p) (hb : p.begun = true)
    (o : Outcome) : c.take (.endProbe p.id o) = some (c.endProbe p o) := by
  rw [take, hp, Option.bind_eq_bind, Option.bind_some, hb]
  rfl

/-- A probe that has pinged its address is found as before. -/
theorem probe?_ping {p : Probe} (hp : c.probe? p.id = some p) :
    (c.ping p).probe? p.id = some { p with begun := true } := by
  have hid : ((·.id == p.id) ∘ fun q : Probe =>
      if q.id = p.id then { q with begun := true } else q) = (·.id == p.id) := by
    funext q
    rw [Function.comp_apply]
    split <;> rfl
  rw [probe?, ping, List.find?_map, hid, show c.probes.find? (·.id == p.id) = some p from hp,
    Option.map_some, if_pos rfl]

/-! ## Waiting -/

/-- Whether every task that there is waits. -/
def waits (c : Census) : Bool :=
  c.sweeps.all (fun s => (c.take (.embark s.id)).isNone && (c.take (.proceed s.id)).isNone) &&
    c.probes.all (fun p => (c.take (.ping p.id)).isNone) &&
    (c.take .alarm).isNone && (c.take .tick).isNone

theorem waits_iff : c.waits = true ↔ c.AllWait := by
  simp only [waits, Bool.and_eq_true, List.all_eq_true, Option.isNone_iff_eq_none]
  constructor
  · rintro ⟨⟨⟨hsweeps, hprobes⟩, halarm⟩, htick⟩ t ht
    cases t with
    | embark id =>
        cases hs : c.sweep? id with
        | none => rw [take, hs]; rfl
        | some s =>
            obtain rfl := Steering.id_of_sweep? (σ := c.steering) hs
            exact (hsweeps s (Steering.mem_of_sweep? (σ := c.steering) hs)).1
    | proceed id =>
        cases hs : c.sweep? id with
        | none => rw [take, hs]; rfl
        | some s =>
            obtain rfl := Steering.id_of_sweep? (σ := c.steering) hs
            exact (hsweeps s (Steering.mem_of_sweep? (σ := c.steering) hs)).2
    | ping id =>
        cases hp : c.probe? id with
        | none => rw [take, hp]; rfl
        | some p =>
            obtain rfl := Steering.id_of_probe? (σ := c.steering) hp
            exact hprobes p (List.mem_of_find?_eq_some hp)
    | alarm => exact halarm
    | tick => exact htick
    | _ => cases ht
  · intro h
    exact ⟨⟨⟨fun s _ => ⟨h _ rfl, h _ rfl⟩, fun p _ => h _ rfl⟩, h _ rfl⟩, h _ rfl⟩

instance (c : Census) : Decidable c.AllWait := decidable_of_iff _ waits_iff

end LanCensus.Census
