/-
# LanCensus.Proofs.Census.Supply -- permits and probes

A sweep that waits for a permit waits for one of its own probes. That it never waits for nothing
rests on three facts that every turn keeps: a probe belongs to a sweep that has set out, a sweep
that has set out and has no permit left has a probe under way, and a sweep in flight has options
that describe a sweep, so that it sets out with a permit at all (`Supplied`).
-/

import LanCensus.Proofs.Census.Order

namespace LanCensus

/-! ## Options that describe a sweep -/

namespace Sweep.Options

theorem IsValid.bounds {o : Options} (h : o.IsValid) :
    o.maxProbes ≠ 0 ∧ o.batchSize ≠ 0 ∧ (o.continuous = true → o.intervalMinutes ≠ 0) := by
  unfold IsValid check at h
  split at h
  · cases h
  split at h
  · cases h
  split at h
  · cases h
  split at h
  · cases h
  next hmax =>
  split at h
  · cases h
  next hbatch =>
  split at h
  · cases h
  next hinterval => exact ⟨hmax, hbatch, fun hc hi => hinterval ⟨hc, hi⟩⟩

theorem IsValid.maxProbes_pos {o : Options} (h : o.IsValid) : o.maxProbes.toNat ≠ 0 :=
  fun hz => h.bounds.1 (UInt64.toNat_inj.mp hz)

/-- Continuous options leave time between sweeps. -/
theorem IsValid.interval_pos {o : Options} (h : o.IsValid) (hc : o.continuous = true) :
    0 < o.interval.nanos := by
  have hm : 0 < o.intervalMinutes.toNat :=
    Nat.pos_of_ne_zero fun hz => h.bounds.2.2 hc (UInt64.toNat_inj.mp hz)
  simp only [interval, intervalSeconds, Span.ofSeconds, nanosPerSecond, Text.wordBound]
  omega

end Sweep.Options

/-- Whether a sweep in flight has been told its subnets. -/
def Sweep.Phase.hasSetOut : Phase → Bool
  | .ready | .waiting | .resting _ | .draining => true
  | _ => false

theorem Sweep.Phase.inFlight_of_hasSetOut {φ : Phase} (h : φ.hasSetOut = true) :
    φ.inFlight = true := by
  cases φ <;> first | rfl | cases h

/-! ## Permits -/

/-- **`Supplied σ`** — probes belong to a sweep that has set out, a sweep without permits has a
probe, and sweeps in flight have options that describe a sweep. -/
structure Supplied (σ : Steering) : Prop where
  belong : ∀ p ∈ σ.probes, ∃ s ∈ σ.sweeps, s.id = p.sweep ∧ s.phase.hasSetOut = true
  permits : ∀ s ∈ σ.sweeps, s.phase.hasSetOut = true → s.permits = 0 →
    ∃ p ∈ σ.probes, p.sweep = s.id
  options : ∀ s ∈ σ.sweeps, s.phase.inFlight = true → s.options.IsValid

namespace Supplied

open Steering

variable {σ τ : Steering} {t : Turn}

/-- A sweep that has not set out has no probes. -/
theorem no_probes (h : Supplied σ) (ho : Orderly σ) {s : Sweep} (hs : s ∈ σ.sweeps)
    (hn : s.phase.hasSetOut = false) : ∀ p ∈ σ.probes, p.sweep ≠ s.id := by
  intro p hp he
  obtain ⟨u, hu, hid, hset⟩ := h.belong p hp
  rw [ho.sweeps.eq_of_id hu hs (hid.trans he), hn] at hset
  cases hset

theorem ask (h : Supplied σ) (p : Option Nat) : Supplied (σ.ask p) where
  belong q hq := by
    obtain ⟨s, hs, hrest⟩ := h.belong q hq
    exact ⟨s, List.mem_cons_of_mem _ hs, hrest⟩
  permits := by
    intro s hs hset
    rcases List.mem_cons.mp hs with rfl | hs
    · cases hset
    · exact h.permits s hs hset
  options := by
    intro s hs hf
    rcases List.mem_cons.mp hs with rfl | hs
    · cases hf
    · exact h.options s hs hf

/-- A sweep `s` gives its place to `s'`, which has set out or takes over no probes. -/
theorem put (h : Supplied σ) {s s' : Sweep} (hs : s ∈ σ.sweeps) (hid : s'.id = s.id)
    (hkeep : s'.phase.hasSetOut = true ∨ ∀ p ∈ σ.probes, p.sweep ≠ s.id)
    (hpermits : s'.phase.hasSetOut = true → s'.permits = 0 → ∃ p ∈ σ.probes, p.sweep = s.id)
    (hoptions : s'.phase.inFlight = true → s'.options.IsValid) : Supplied (σ.put s') where
  belong p hp := by
    obtain ⟨u, hu, hup, hset⟩ := h.belong p hp
    by_cases he : u.id = s.id
    · refine ⟨s', mem_put_self hs hid.symm, hid.trans (he.symm.trans hup), ?_⟩
      exact hkeep.resolve_right fun hno => hno p hp (hup.symm.trans he)
    · exact ⟨u, mem_put_of_ne hu (hid ▸ he), hup, hset⟩
  permits u hu hset hz := by
    rcases mem_put hu with rfl | ⟨hu, -⟩
    · obtain ⟨p, hp, he⟩ := hpermits hset hz
      exact ⟨p, hp, he.trans hid.symm⟩
    · exact h.permits u hu hset hz
  options u hu hf := by
    rcases mem_put hu with rfl | ⟨hu, -⟩
    · exact hoptions hf
    · exact h.options u hu hf

/-- A sweep that is over takes no probes with it. -/
theorem put_over (h : Supplied σ) {s s' : Sweep} (hs : s ∈ σ.sweeps) (hid : s'.id = s.id)
    (hno : ∀ p ∈ σ.probes, p.sweep ≠ s.id) (hover : s'.phase.inFlight = false) :
    Supplied (σ.put s') := by
  have hf : ¬ s'.phase.inFlight = true := by
    rw [hover]
    exact Bool.false_ne_true
  exact h.put hs hid (.inr hno) (fun hset => (hf (Sweep.Phase.inFlight_of_hasSetOut hset)).elim)
    fun hf' => (hf hf').elim

/-- A sweep without probes ends. -/
theorem conclude (h : Supplied σ) {s : Sweep} (hs : s ∈ σ.sweeps)
    (hno : ∀ p ∈ σ.probes, p.sweep ≠ s.id) (l : List Device) : Supplied (σ.conclude s l) := by
  have hc : Supplied { σ with armed := σ.armed && σ.options.continuous, sweeping := false } :=
    ⟨h.belong, h.permits, h.options⟩
  exact hc.put_over hs rfl hno rfl

/-- A sweep that has set out goes on with as many permits. -/
theorem put_same (h : Supplied σ) {s s' : Sweep} (hs : s ∈ σ.sweeps) (hid : s'.id = s.id)
    (hset : s.phase.hasSetOut = true) (hset' : s'.phase.hasSetOut = true)
    (hpermits : s'.permits = s.permits) (hoptions : s'.options = s.options) :
    Supplied (σ.put s') := by
  refine h.put hs hid (.inl hset') (fun _ hz => h.permits s hs hset (hpermits ▸ hz)) ?_
  intro _
  rw [hoptions]
  exact h.options s hs (Sweep.Phase.inFlight_of_hasSetOut hset)

/-- Only the sweep that fails had probes. -/
theorem drop (h : Supplied σ) (ho : Orderly σ) {s : Sweep} (hs : s ∈ σ.sweeps)
    (hf : s.phase.inFlight = true) {ps : List Probe}
    (hps : ∀ p ∈ ps, p ∈ σ.probes ∨ p.sweep = s.id) :
    ps.filter (·.sweep ≠ s.id) = [] := by
  apply List.filter_eq_nil_iff.mpr
  intro p hp
  rcases hps p hp with hp | he
  · obtain ⟨u, hu, hid, hset⟩ := h.belong p hp
    have he := ho.sweeps.alone u hu s hs (Sweep.Phase.inFlight_of_hasSetOut hset) hf
    rw [he] at hid
    simp [hid]
  · simp [he]

/-- A sweep fails, and its probes with it. -/
theorem fail (h : Supplied σ) (ho : Orderly σ) {υ : Steering} {s s' : Sweep} (hs : s ∈ σ.sweeps)
    (hf : s.phase.inFlight = true) (hid : s'.id = s.id) (hυ : υ.sweeps = σ.sweeps)
    (hps : ∀ p ∈ υ.probes, p ∈ σ.probes ∨ p.sweep = s.id) : Supplied (υ.fail s') := by
  have hnil : (υ.fail s').probes = [] := by
    show υ.probes.filter (·.sweep ≠ s'.id) = []
    rw [hid]
    exact h.drop ho hs hf hps
  have hmem : ∀ u ∈ (υ.fail s').sweeps, u.phase = .crashed ∨ (u ∈ σ.sweeps ∧ u.id ≠ s.id) := by
    intro u hu
    rcases mem_put hu with rfl | ⟨hu, hne⟩
    · exact .inl rfl
    · exact .inr ⟨hυ ▸ hu, hid ▸ hne⟩
  refine ⟨?_, fun u hu hset => ?_, fun u hu hfu => ?_⟩
  · intro p hp
    rw [hnil] at hp
    cases hp
  · rcases hmem u hu with hc | ⟨hu, hne⟩
    · rw [hc] at hset
      cases hset
    · exact (hne (congrArg Sweep.id
        (ho.sweeps.alone u hu s hs (Sweep.Phase.inFlight_of_hasSetOut hset) hf))).elim
  · rcases hmem u hu with hc | ⟨hu, -⟩
    · rw [hc] at hfu
      cases hfu
    · exact h.options u hu hfu

/-- A probe takes a permit of its sweep. -/
theorem dispatch (h : Supplied σ) {s : Sweep} (hs : s ∈ σ.sweeps) (hset : s.phase.hasSetOut = true)
    (x : Sweep.Target) {s' : Sweep} (hid : s'.id = s.id) (hset' : s'.phase.hasSetOut = true)
    (hoptions : s'.options = s.options) : Supplied ((σ.launch s x).put s') where
  belong p hp := by
    have hother : ∀ u ∈ σ.sweeps, u.id = p.sweep → u.phase.hasSetOut = true →
        ∃ v ∈ ((σ.launch s x).put s').sweeps, v.id = p.sweep ∧ v.phase.hasSetOut = true := by
      intro u hu hup huset
      by_cases he : u.id = s.id
      · exact ⟨s', mem_put_self hs hid.symm, hid.trans (he.symm.trans hup), hset'⟩
      · exact ⟨u, mem_put_of_ne hu (hid ▸ he), hup, huset⟩
    rcases List.mem_append.mp hp with hp | hp
    · obtain ⟨u, hu, hup, huset⟩ := h.belong p hp
      exact hother u hu hup huset
    · obtain rfl := List.mem_singleton.mp hp
      exact hother s hs rfl hset
  permits u hu hsetu hz := by
    rcases mem_put hu with rfl | ⟨hu, -⟩
    · exact ⟨_, List.mem_append_right _ List.mem_cons_self, hid.symm⟩
    · obtain ⟨p, hp, he⟩ := h.permits u hu hsetu hz
      exact ⟨p, List.mem_append_left _ hp, he⟩
  options u hu hf := by
    rcases mem_put hu with rfl | ⟨hu, -⟩
    · rw [hoptions]
      exact h.options s hs (Sweep.Phase.inFlight_of_hasSetOut hset)
    · exact h.options u hu hf

/-- The end of a probe leaves its sweep with a permit, and no other sweep has probes. -/
theorem release (h : Supplied σ) (ho : Orderly σ) {p : Probe} (hp : p ∈ σ.probes) (b : Bool) :
    Supplied (σ.release p b) where
  belong q hq := by
    obtain ⟨u, hu, huq, hset⟩ := h.belong q (List.mem_of_mem_filter hq)
    refine ⟨_, List.mem_map_of_mem hu, ?_⟩
    split <;> exact ⟨huq, hset⟩
  permits v hv hset hz := by
    obtain ⟨u, hu, rfl⟩ := List.mem_map.mp hv
    obtain ⟨w, hw, hwp, hwset⟩ := h.belong p hp
    by_cases he : u.id = p.sweep
    · rw [if_pos he] at hz
      exact (Nat.succ_ne_zero _ hz).elim
    · rw [if_neg he] at hset
      -- Two sweeps would have set out: this one, and the one that the probe belongs to.
      refine (he ?_).elim
      rw [← hwp, ho.sweeps.alone u hu w hw (Sweep.Phase.inFlight_of_hasSetOut hset)
        (Sweep.Phase.inFlight_of_hasSetOut hwset)]
  options v hv hf := by
    obtain ⟨u, hu, rfl⟩ := List.mem_map.mp hv
    split at hf <;> split <;> exact h.options u hu hf

theorem moves (h : Supplied σ) (ho : Orderly σ) (hm : Moves σ t τ) : Supplied τ := by
  cases hm with
  | keepArmed | refuse | remove | endLookup => exact h
  | armTimer | pause | adopt | disband | lookUp => exact ⟨h.belong, h.permits, h.options⟩
  | armOnce =>
      have ha : Supplied { σ with armed := true } := ⟨h.belong, h.permits, h.options⟩
      exact ha.ask _
  | request => exact h.ask _
  | turnAway hs hp _ =>
      have hmem := mem_of_sweep? hs
      exact h.put_over hmem rfl (h.no_probes ho hmem (by rw [hp]; rfl)) rfl
  | embark hs hp _ =>
      have hmem := mem_of_sweep? hs
      have hb : Supplied { σ with sweeping := true } := ⟨h.belong, h.permits, h.options⟩
      refine hb.put hmem rfl (.inr (h.no_probes ho hmem (by rw [hp]; rfl))) (fun hx => ?_)
        fun _ => ho.valid
      cases hx
  | abort hs hp _ =>
      have hmem := mem_of_sweep? hs
      exact h.conclude hmem (h.no_probes ho hmem (by rw [hp]; rfl)) _
  | callOff hs hp _ _ =>
      have hmem := mem_of_sweep? hs
      exact h.conclude hmem (h.no_probes ho hmem (by rw [hp]; rfl)) _
  | overload hs hp _ _ _ =>
      exact h.fail ho (mem_of_sweep? hs) (by rw [hp]; rfl) rfl rfl fun p hp => .inl hp
  -- The options describe a sweep, so it sets out with a permit.
  | setOut hs hp _ _ _ =>
      have hmem := mem_of_sweep? hs
      have hvalid := h.options _ hmem (by rw [hp]; rfl)
      exact h.put hmem rfl (.inl rfl) (fun _ hz => (hvalid.maxProbes_pos hz).elim) fun _ => hvalid
  | collapse hs hp =>
      exact h.fail ho (mem_of_sweep? hs) (by rw [hp]; rfl) rfl rfl fun p hp => .inl hp
  | await hs hp _ _ _ => exact h.put_same (mem_of_sweep? hs) rfl (by rw [hp]; rfl) rfl rfl rfl
  | stop hs hp _ =>
      refine h.put_same (mem_of_sweep? hs) rfl ?_ rfl rfl rfl
      rcases hp with hp | hp <;> rw [hp] <;> rfl
  | dispatch hs hp _ _ _ hφ =>
      refine h.dispatch (mem_of_sweep? hs) ?_ _ rfl ?_ rfl
      · rcases hp with hp | hp <;> rw [hp] <;> rfl
      · rcases hφ with rfl | ⟨w, rfl⟩ <;> rfl
  | stumble hs hp _ _ =>
      refine h.fail ho (mem_of_sweep? hs) (Sweep.inFlight_of_ready hp) rfl rfl ?_
      intro p hp
      rcases List.mem_append.mp hp with hp | hp
      · exact .inl hp
      · obtain rfl := List.mem_singleton.mp hp
        exact .inr rfl
  | wake hs hp _ => exact h.put_same (mem_of_sweep? hs) rfl (by rw [hp]; rfl) rfl rfl rfl
  | complete hs _ hno =>
      obtain ⟨n, hn⟩ := σ.publish_eq _
      rw [hn]
      have hd : Supplied { σ with nextSweep := n } := ⟨h.belong, h.permits, h.options⟩
      exact hd.conclude (mem_of_sweep? hs) hno _
  | ping _ _ =>
      refine ⟨fun q hq => ?_, fun u hu hset hz => ?_, h.options⟩
      · obtain ⟨r, hr, rfl⟩ := List.mem_map.mp hq
        obtain ⟨u, hu, huq, hset⟩ := h.belong r hr
        refine ⟨u, hu, ?_, hset⟩
        split <;> exact huq
      · obtain ⟨q, hq, he⟩ := h.permits u hu hset hz
        refine ⟨_, List.mem_map_of_mem hq, ?_⟩
        split <;> exact he
  | endProbe hp _ => exact h.release ho (List.mem_of_find?_eq_some hp) _
  | alarmOff | alarmSet | alarmRing | tickOff | tick | pass =>
      exact ⟨h.belong, h.permits, h.options⟩
  | alarmBusy | alarmFollow =>
      obtain ⟨n, hn⟩ := σ.planAhead_eq
      rw [hn]
      exact ⟨h.belong, h.permits, h.options⟩
  | @alarmAsk x =>
      have ha := h.ask (some x.pauses)
      exact ⟨ha.belong, ha.permits, ha.options⟩

end Supplied

/-- What holds of every census that can come about. -/
theorem Census.Reaches.supplied {c d : Census} (hr : Census.Reaches c d) (hc : c.IsNew) :
    Orderly d.steering ∧ Supplied d.steering := by
  induction hr with
  | refl =>
      obtain ⟨now, o, r, rfl, -⟩ := hc.eq_initial
      refine ⟨hc.orderly, ⟨?_, ?_, ?_⟩⟩ <;> intro x hx <;> cases hx
  | step _ ht ih =>
      have hm := Census.take_moves ht
      exact ⟨ih.1.moves hm, ih.2.moves ih.1 hm⟩

end LanCensus
