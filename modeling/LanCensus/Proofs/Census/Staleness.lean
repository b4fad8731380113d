/-
# LanCensus.Proofs.Census.Staleness -- sweeps that a pause has overtaken

A sweep goes by the number of pauses that there had been when it began, or when the timer or the start
that asked for it was armed; that is its epoch. A pause since then makes it stale (`Sweep.IsStale`).

No turn gives a sweep another epoch, and none takes a pause back, so a stale sweep stays stale,
whatever is resumed (`Spent.moves`). A stale sweep dispatches nothing (`Spent.launched_eq_nil`), and if
it had not set out it never does (`Dormant.moves`).
-/

import LanCensus.Proofs.Census.Itinerary

namespace LanCensus

/-! ## Epochs -/

/-- The number of pauses that the sweep goes by. One that was not asked for on behalf of a timer or a
start learns it when it begins. -/
def Sweep.epoch (s : Sweep) : Option Nat :=
  match s.phase with
  | .queued p => p
  | _ => some s.pauses

/-- **`s.IsStale n`** — the sweep is over, or goes by fewer than `n` pauses. -/
def Sweep.IsStale (s : Sweep) (n : Nat) : Prop :=
  s.phase.isOver = true ∨ ∃ k, s.epoch = some k ∧ k < n

theorem Sweep.epoch_of_inFlight {s : Sweep} (h : s.phase.inFlight = true) :
    s.epoch = some s.pauses := by
  unfold epoch
  cases hp : s.phase with
  | queued p =>
      rw [hp] at h
      cases h
  | _ => rfl

theorem Sweep.Phase.not_isOver_of_inFlight {φ : Phase} (h : φ.inFlight = true) :
    φ.isOver = false := by
  cases φ <;> first | rfl | cases h

/-- **`Origin σ s'`** — where a sweep comes from that is found after a turn: it is over; it was there
before, with the same epoch, and has set out only if it had already or is not stale; it has just begun;
or it has just been asked for. -/
inductive Origin (σ : Steering) (s' : Sweep) : Prop
  | ended : s'.phase.isOver = true → Origin σ s'
  | kept {s : Sweep} : s ∈ σ.sweeps → s.id = s'.id → s.phase.isOver = false →
      s'.epoch = s.epoch →
      (s'.phase.hasSetOut = true → s.phase.hasSetOut = true ∨ s.epoch = some σ.pauses) →
      Origin σ s'
  | begun {s : Sweep} : s ∈ σ.sweeps → s.id = s'.id → s.phase = .queued none →
      s'.epoch = some σ.pauses → s'.phase = .listing → Origin σ s'
  | asked : s'.id = σ.fresh → s'.phase.hasSetOut = false →
      (∀ k, s'.epoch = some k → k = σ.pauses) → Origin σ s'

namespace Origin

open Steering

variable {σ υ : Steering} {s u u' : Sweep}

theorem of_mem (h : s ∈ σ.sweeps) : Origin σ s := by
  cases ho : s.phase.isOver with
  | true => exact .ended ho
  | false => exact .kept h rfl ho rfl .inl

/-- A sweep in flight goes on. -/
theorem of_inFlight (hu : u ∈ σ.sweeps) (hf : u.phase.inFlight = true) (hid : u.id = u'.id)
    (hf' : u'.phase.inFlight = true) (hp : u'.pauses = u.pauses)
    (hset : u'.phase.hasSetOut = true → u.phase.hasSetOut = true ∨ u.pauses = σ.pauses) :
    Origin σ u' := by
  have he := Sweep.epoch_of_inFlight hf
  refine .kept hu hid (Sweep.Phase.not_isOver_of_inFlight hf) ?_ fun h => ?_
  · rw [Sweep.epoch_of_inFlight hf', hp, he]
  · rw [he]
    exact (hset h).imp_right (congrArg some)

theorem of_put (hυ : υ.sweeps = σ.sweeps) (h : s ∈ (υ.put u').sweeps) (hu : Origin σ u') :
    Origin σ s := by
  rcases mem_put h with rfl | ⟨hs, -⟩
  · exact hu
  · exact .of_mem (hυ ▸ hs)

theorem of_ask {p : Option Nat} (hυ : υ.sweeps = σ.sweeps) (hfresh : υ.fresh = σ.fresh)
    (h : s ∈ (υ.ask p).sweeps) (hp : ∀ k, p = some k → k = σ.pauses) : Origin σ s := by
  rcases List.mem_cons.mp h with rfl | hs
  · exact .asked hfresh rfl hp
  · exact .of_mem (hυ ▸ hs)

end Origin

section

open Steering

variable {σ τ : Steering} {t : Turn}

theorem Moves.origin (hm : Moves σ t τ) {s' : Sweep} (hs' : s' ∈ τ.sweeps) : Origin σ s' := by
  cases hm with
  | keepArmed | armTimer | pause | refuse | adopt | disband | remove | lookUp | endLookup | ping
  | alarmOff | alarmSet | alarmRing | tickOff | tick | pass => exact .of_mem hs'
  | alarmBusy | alarmFollow =>
      obtain ⟨n, hn⟩ := σ.planAhead_eq
      rw [hn] at hs'
      exact .of_mem hs'
  | armOnce =>
      refine Origin.of_ask (υ := { σ with armed := true }) rfl rfl hs' fun k hk => ?_
      exact (Option.some.inj hk).symm
  | request => exact Origin.of_ask (υ := σ) rfl rfl hs' fun k hk => by cases hk
  | alarmAsk _ _ hq =>
      refine Origin.of_ask (υ := σ) rfl rfl hs' fun k hk => ?_
      rw [hq]
      exact (Option.some.inj hk).symm
  | turnAway => exact Origin.of_put (υ := σ) rfl hs' (.ended rfl)
  | @embark u p hu hp =>
      refine Origin.of_put (υ := { σ with sweeping := true }) rfl hs' ?_
      cases p with
      | none => exact .begun (mem_of_sweep? hu) rfl hp rfl rfl
      | some k =>
          refine .kept (mem_of_sweep? hu) rfl (by rw [hp]; rfl) ?_ fun h => by cases h
          rw [Sweep.epoch, Sweep.epoch, hp]
          rfl
  | abort | callOff =>
      exact Origin.of_put (υ := { σ with armed := σ.armed && σ.options.continuous, sweeping := false })
        rfl hs' (.ended rfl)
  | @overload u | @collapse u =>
      exact Origin.of_put
        (υ := { σ with sweeping := false, probes := σ.probes.filter (·.sweep ≠ u.id) })
        rfl hs' (.ended rfl)
  | setOut hu hp _ hq =>
      refine Origin.of_put (υ := σ) rfl hs' ?_
      exact .of_inFlight (mem_of_sweep? hu) (by rw [hp]; rfl) rfl rfl rfl fun _ => .inr hq.symm
  | await hu hp | wake hu hp =>
      refine Origin.of_put (υ := σ) rfl hs' ?_
      exact .of_inFlight (mem_of_sweep? hu) (by rw [hp]; rfl) rfl rfl rfl fun _ => .inl (by rw [hp]; rfl)
  | stop hu hp =>
      refine Origin.of_put (υ := σ) rfl hs' ?_
      refine .of_inFlight (mem_of_sweep? hu) (Sweep.inFlight_of_ready hp) rfl rfl rfl fun _ => .inl ?_
      rcases hp with hp | hp <;> rw [hp] <;> rfl
  | @dispatch u x _ φ hu hp _ _ _ hφ =>
      refine Origin.of_put (υ := σ.launch u x) rfl hs' ?_
      refine .of_inFlight (mem_of_sweep? hu) (Sweep.inFlight_of_ready hp) rfl ?_ rfl fun _ => .inl ?_
      · rcases hφ with rfl | ⟨w, rfl⟩ <;> rfl
      · rcases hp with hp | hp <;> rw [hp] <;> rfl
  | @stumble u x =>
      exact Origin.of_put
        (υ := { σ.launch u x with
          sweeping := false, probes := (σ.launch u x).probes.filter (·.sweep ≠ u.id) })
        rfl hs' (.ended rfl)
  | @complete u =>
      obtain ⟨n, hn⟩ := σ.publish_eq u
      rw [hn] at hs'
      exact Origin.of_put
        (υ := { σ with
          nextSweep := n, armed := σ.armed && σ.options.continuous, sweeping := false })
        rfl hs' (.ended rfl)
  -- The sweep of the probe has a permit more, and nothing else of it changes.
  | endProbe =>
      obtain ⟨u, hu, rfl⟩ := List.mem_map.mp hs'
      have h := Origin.of_mem hu
      split
      · cases ho : u.phase.isOver with
        | true => exact .ended ho
        | false => exact .kept hu rfl ho rfl .inl
      · exact h

/-- Neither the number of pauses nor the fresh number goes back. -/
theorem Moves.mono (hm : Moves σ t τ) : σ.pauses ≤ τ.pauses ∧ σ.fresh ≤ τ.fresh := by
  cases hm with
  | pause => exact ⟨Nat.le_succ _, Nat.le_refl _⟩
  | lookUp hn => exact ⟨Nat.le_refl _, hn⟩
  | armOnce | request | alarmAsk | dispatch | stumble => exact ⟨Nat.le_refl _, Nat.le_succ _⟩
  | complete =>
      obtain ⟨n, hn⟩ := σ.publish_eq _
      rw [hn]
      exact ⟨Nat.le_refl _, Nat.le_refl _⟩
  | alarmBusy | alarmFollow =>
      obtain ⟨n, hn⟩ := σ.planAhead_eq
      rw [hn]
      exact ⟨Nat.le_refl _, Nat.le_refl _⟩
  | _ => exact ⟨Nat.le_refl _, Nat.le_refl _⟩

end

/-! ## No epoch lies ahead -/

/-- **`Dated σ`** — no sweep goes by more pauses than there have been. -/
def Dated (σ : Steering) : Prop :=
  ∀ s ∈ σ.sweeps, s.phase.isOver = false → ∀ k, s.epoch = some k → k ≤ σ.pauses

theorem Dated.moves {σ τ : Steering} {t : Turn} (h : Dated σ) (hm : Moves σ t τ) : Dated τ := by
  intro s' hs' hover k hk
  refine Nat.le_trans ?_ hm.mono.1
  cases hm.origin hs' with
  | ended ho => cases ho.symm.trans hover
  | kept hs _ ho he _ => exact h _ hs ho k (he.symm.trans hk)
  | begun _ _ _ he _ =>
      obtain rfl := Option.some.inj (he.symm.trans hk)
      exact Nat.le_refl _
  | asked _ _ he => exact Nat.le_of_eq (he k hk)

theorem Census.Reaches.dated {c d : Census} (hr : Census.Reaches c d) (hc : c.IsNew) :
    Dated d.steering := by
  induction hr with
  | refl =>
      obtain ⟨now, o, r, rfl, -⟩ := hc.eq_initial
      intro s hs
      cases hs
  | step _ ht ih => exact ih.moves (Census.take_moves ht)

/-! ## Stale sweeps stay stale -/

/-- **`Spent σ id`** — the number was given to a sweep that is stale now. -/
structure Spent (σ : Steering) (id : Nat) : Prop where
  given : id < σ.fresh
  stale : ∀ s ∈ σ.sweeps, s.id = id → s.IsStale σ.pauses

namespace Spent

variable {σ τ : Steering} {t : Turn} {id : Nat}

theorem moves (h : Spent σ id) (hm : Moves σ t τ) : Spent τ id where
  given := Nat.lt_of_lt_of_le h.given hm.mono.2
  stale := by
    intro s' hs' hid
    cases hm.origin hs' with
    | ended ho => exact .inl ho
    | kept hs he ho hepoch _ =>
        obtain ⟨k, hk, hlt⟩ := (h.stale _ hs (he.trans hid)).resolve_left (by rw [ho]; simp)
        exact .inr ⟨k, hepoch.trans hk, Nat.lt_of_lt_of_le hlt hm.mono.1⟩
    | @begun s hs he hp _ _ =>
        -- A sweep without an epoch is not stale.
        rcases h.stale s hs (he.trans hid) with ho | ⟨k, hk, -⟩
        · rw [hp] at ho
          cases ho
        · rw [Sweep.epoch, hp] at hk
          cases hk
    | asked he => exact absurd (he.symm.trans hid) (Nat.ne_of_gt h.given)

/-- A stale sweep in flight has been overtaken. -/
theorem pauses_ne (h : Spent σ id) {s : Sweep} (hs : σ.sweep? id = some s)
    (hf : s.phase.inFlight = true) : σ.pauses ≠ s.pauses := by
  rcases h.stale s (Steering.mem_of_sweep? hs) (Steering.id_of_sweep? hs) with ho | ⟨k, hk, hlt⟩
  · cases ho.symm.trans (Sweep.Phase.not_isOver_of_inFlight hf)
  · obtain rfl := Option.some.inj ((Sweep.epoch_of_inFlight hf).symm.trans hk)
    exact Nat.ne_of_gt hlt

/-- **`Spent.launched_eq_nil`** — a stale sweep dispatches nothing. -/
theorem launched_eq_nil (h : Spent σ id) (hsupp : Supplied σ) (hm : Moves σ t τ) :
    (Step.mk σ t τ).launched id = [] := by
  apply Step.launched_eq_nil
  intro p hp hsweep
  -- A new probe would be one of the sweep, which would have to be up to date.
  have hold : p ∈ σ.probes → ∃ q ∈ σ.probes, q.id = p.id := fun hp => ⟨p, hp, rfl⟩
  cases hm with
  | dispatch hs hq _ hpauses =>
      rcases List.mem_append.mp hp with hp | hp
      · exact hold hp
      · obtain rfl := List.mem_singleton.mp hp
        subst hsweep
        exact absurd hpauses (h.pauses_ne hs (Sweep.inFlight_of_ready hq))
  | stumble hs hq _ hb =>
      have hf := Sweep.inFlight_of_ready hq
      exact absurd hb (hsupp.options _ (Steering.mem_of_sweep? hs) hf).bounds.2.1
  | ping =>
      obtain ⟨q, hq, rfl⟩ := List.mem_map.mp hp
      refine ⟨q, hq, ?_⟩
      split <;> rfl
  | overload | collapse | endProbe => exact hold (List.mem_of_mem_filter hp)
  | complete =>
      obtain ⟨n, hn⟩ := σ.publish_eq _
      rw [hn] at hp
      exact hold hp
  | alarmBusy | alarmFollow =>
      obtain ⟨n, hn⟩ := σ.planAhead_eq
      rw [hn] at hp
      exact hold hp
  | _ => exact hold hp

end Spent

/-! ## Sweeps that have not set out -/

/-- **`Dormant σ id`** — the sweep has not marked the devices offline and has turned to no address. -/
def Dormant (σ : Steering) (id : Nat) : Prop :=
  ∀ s ∈ σ.sweeps, s.id = id → s.phase.hasSetOut = false

theorem Dormant.moves {σ τ : Steering} {t : Turn} {id : Nat} (hd : Dormant σ id)
    (h : Spent σ id) (hm : Moves σ t τ) : Dormant τ id := by
  intro s' hs' hid
  apply Bool.eq_false_iff.mpr
  intro hset
  cases hm.origin hs' with
  | ended ho =>
      have := Sweep.Phase.not_isOver_of_inFlight (Sweep.Phase.inFlight_of_hasSetOut hset)
      cases ho.symm.trans this
  | @kept s hs he ho _ hkept =>
      rcases hkept hset with hset | hepoch
      · cases (hd s hs (he.trans hid)).symm.trans hset
      · -- Its epoch is of today, so it is not stale.
        obtain ⟨k, hk, hlt⟩ := (h.stale s hs (he.trans hid)).resolve_left (by rw [ho]; simp)
        obtain rfl := Option.some.inj (hepoch.symm.trans hk)
        exact Nat.lt_irrefl _ hlt
  | begun _ _ _ _ hp =>
      rw [hp] at hset
      cases hset
  | asked _ hno => cases hno.symm.trans hset

end LanCensus
