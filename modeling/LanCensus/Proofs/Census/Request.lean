/-
# LanCensus.Proofs.Census.Request -- what becomes of a request to sweep

A pause does not end a sweep. It leaves it to stop at its next address, and until it has done so the
sweep still counts as being in flight. If sweeping is started again meanwhile, the request meets the
old sweep: a census armed for one sweep turns the new one away, and a timer waits a whole interval.
The request is lost, because the sweep that it counts on was cut short.

`served_of_not_blocked` says that nothing else can lose a request: unless a sweep that has been cut
short stands in the way when sweeping is started, a sweep that is not cut short comes to its end
before the census rests again.
-/

import LanCensus.Proofs.Census.Course
import LanCensus.Proofs.Census.Turns

namespace LanCensus

/-! ## Sweeps that are cut short -/

/-- **`CutShort s n`** — with `n` pauses so far, the sweep is stopped by a pause before it has
dispatched a probe to every address, or will be. -/
def Sweep.CutShort (s : Sweep) (n : Nat) : Prop :=
  match s.phase with
  | .queued p => p.getD n ≠ n
  | .listing => s.pauses ≠ n
  | .ready | .waiting | .resting _ => s.pauses ≠ n ∧ s.targets ≠ []
  | .draining => s.targets ≠ []
  | .ended _ | .crashed => False

instance (s : Sweep) (n : Nat) : Decidable (s.CutShort n) := by
  unfold Sweep.CutShort
  split <;> infer_instance

theorem Sweep.cutShort_of_eq {s u : Sweep} {n : Nat} (hp : u.phase = s.phase)
    (hq : u.pauses = s.pauses) (ht : u.targets = s.targets) : u.CutShort n ↔ s.CutShort n := by
  rw [CutShort, CutShort, hp, hq, ht]

/-- **`Blocked σ`** — a sweep that is cut short is in flight, or will be before any other. -/
def Steering.Blocked (σ : Steering) : Prop :=
  ∃ s ∈ σ.sweeps, s.CutShort σ.pauses ∧ (s.phase.inFlight = true ∨
    (s.phase.isQueued = true ∧ σ.sweeping = false))

instance (σ : Steering) : Decidable σ.Blocked := by
  unfold Steering.Blocked
  infer_instance

namespace Step

/-- A sweep ends that was not cut short: it has dispatched a probe to every address, or there were
no subnets. -/
def serves (x : Step) : Prop :=
  ∃ s, x.before.sweep? s.id = some s ∧ (∃ l, x.after.phase? s.id = some (.ended l)) ∧
    ((s.phase = .draining ∧ s.targets = []) ∨
      (s.phase = .listing ∧ ∃ names, x.turn = .list s.id names ∧ NoSubnets names))

/-- The owner takes the request back, by a pause or by options that disarm the census. -/
def forgoes (x : Step) : Prop :=
  x.turn = .pause ∨ (x.before.armed = true ∧
    ∃ o, x.turn = .setOptions o ∧ o.IsValid ∧ o.continuous = false)

end Step

/-! ## What a request can count on -/

/-- Something will ask for a sweep, or has asked: a sweep waits for its turn, or a timer is about to
have its first one. -/
def Steering.WillAsk (σ : Steering) : Prop :=
  (∃ s ∈ σ.sweeps, s.phase.isQueued = true) ∨
    ∃ x, σ.timer = some x ∧ x.alarm = .ringing ∧ σ.nextSweep = none

/-- **`Promised σ`** — a sweep that is not cut short is in flight, or the next one to begin is not.
-/
inductive Promised (σ : Steering) : Prop
  | inFlight (s : Sweep) : s ∈ σ.sweeps → s.phase.inFlight = true → ¬ s.CutShort σ.pauses →
      Promised σ
  | ahead : σ.sweeping = false →
      (∀ s ∈ σ.sweeps, s.phase.isQueued = true → ¬ s.CutShort σ.pauses) → σ.WillAsk → Promised σ

namespace Promised

open Steering

variable {σ τ : Steering} {t : Turn}

/-- After a start that arms the census a request can count on a sweep, unless it is blocked. -/
theorem of_start (hm : Moves σ t τ) (ho : Orderly σ) (ht : t.isStart = true)
    (ha : σ.armed = false) (hb : ¬ σ.Blocked) : Promised τ := by
  have hflight : σ.sweeping = true → ∃ s ∈ σ.sweeps, s.phase.inFlight = true ∧
      ¬ s.CutShort σ.pauses := by
    intro hs
    obtain ⟨s, hmem, hf⟩ := ho.sweeps.exists_of hs
    exact ⟨s, hmem, hf, fun hc => hb ⟨s, hmem, hc, .inl hf⟩⟩
  have hqueue : σ.sweeping = false →
      ∀ s ∈ σ.sweeps, s.phase.isQueued = true → ¬ s.CutShort σ.pauses :=
    fun hs s hmem hq hc => hb ⟨s, hmem, hc, .inr ⟨hq, hs⟩⟩
  cases hm with
  | keepArmed _ h => cases ha.symm.trans h
  | armTimer _ _ _ =>
      rcases Bool.eq_false_or_eq_true σ.sweeping with hs | hs
      · obtain ⟨s, hmem, hf, hc⟩ := hflight hs
        exact .inFlight s hmem hf hc
      · exact .ahead hs (hqueue hs) (.inr ⟨_, rfl, rfl, rfl⟩)
  | armOnce _ _ _ =>
      rcases Bool.eq_false_or_eq_true σ.sweeping with hs | hs
      · obtain ⟨s, hmem, hf, hc⟩ := hflight hs
        exact .inFlight s (List.mem_cons_of_mem _ hmem) hf hc
      · refine .ahead hs ?_ (.inl ⟨_, List.mem_cons_self, rfl⟩)
        intro s hmem hq
        rcases List.mem_cons.mp hmem with rfl | hmem
        · intro hc
          exact hc rfl
        · exact hqueue hs s hmem hq
  | _ => cases ht

/-- A sweep in flight goes from one phase to another without being cut short. -/
theorem put {υ : Steering} {s s' : Sweep} (hs : σ.sweep? s.id = some s) (hid : s'.id = s.id)
    (hυ : υ.sweeps = σ.sweeps) (hf : s'.phase.inFlight = true) (hc : ¬ s'.CutShort υ.pauses) :
    Promised (υ.put s') :=
  .inFlight s' (mem_put_self (hυ ▸ mem_of_sweep? hs) hid.symm) hf hc

/-- The sweep in flight stays where it is. -/
theorem stay {s : Sweep} (hmem : s ∈ τ.sweeps) (hf : s.phase.inFlight = true)
    (hc : ¬ s.CutShort σ.pauses) (hp : τ.pauses = σ.pauses) : Promised τ :=
  .inFlight s hmem hf (hp ▸ hc)

/-- A sweep that is not cut short ends. -/
theorem serves_of_complete {s : Sweep} {l : List Device} (hs : σ.sweep? s.id = some s)
    (hp : s.phase = .draining) (hc : ¬ s.CutShort σ.pauses) :
    (Step.mk σ t ((σ.publish s).conclude s l)).serves := by
  have hs' : (σ.publish s).sweep? s.id = some s := (sweep?_publish σ s s.id).trans hs
  refine ⟨s, hs, ⟨l, phase?_conclude hs' l⟩, .inl ⟨hp, ?_⟩⟩
  rw [Sweep.CutShort, hp] at hc
  exact not_not.mp hc

theorem crashes_of_fail {υ : Steering} {s s' : Sweep} (ho : Orderly σ)
    (hs : σ.sweep? s.id = some s) (hf : s.phase.inFlight = true) (hid : s'.id = s.id)
    (hυ : υ.sweeps = σ.sweeps) : (Step.mk σ t (υ.fail s')).crashes :=
  (ho.crashes_iff hs hf (phase?_fail hυ hs hid)).mpr rfl

/-- A sweep in flight that is not cut short goes on so, ends as it should or fails. -/
theorem moves_inFlight (hm : Moves σ t τ) (ho : Orderly σ)
    (hn : ¬ (Step.mk σ t τ).forgoes) {s : Sweep} (hmem : s ∈ σ.sweeps)
    (hf : s.phase.inFlight = true) (hc : ¬ s.CutShort σ.pauses) :
    Promised τ ∨ (Step.mk σ t τ).serves ∨ (Step.mk σ t τ).crashes := by
  have hsame : ∀ {u : Sweep}, σ.sweep? u.id = some u → u.phase.inFlight = true → u = s :=
    fun hu hfu => ho.sweeps.alone _ (mem_of_sweep? hu) s hmem hfu hf
  cases hm with
  -- The owner, lookups and the timer leave the sweep in flight where it is.
  | keepArmed | armTimer | refuse | adopt | disband | remove | lookUp | endLookup | ping =>
      exact .inl (stay hmem hf hc rfl)
  | alarmOff | alarmSet | alarmRing | tickOff | tick | pass => exact .inl (stay hmem hf hc rfl)
  | armOnce | request | alarmAsk => exact .inl (stay (List.mem_cons_of_mem _ hmem) hf hc rfl)
  | pause => exact (hn (.inl rfl)).elim
  | @turnAway u p l hu hp hb =>
      refine .inl (stay (mem_put_of_ne hmem fun hid => ?_) hf hc rfl)
      rw [ho.sweeps.eq_of_id hmem (mem_of_sweep? hu) hid, hp] at hf
      cases hf
  | embark hu hp hb => cases hb.symm.trans (ho.sweeps.busy_of s hmem hf)
  -- What happens to a sweep in flight happens to this one.
  | @abort u names l hu hp hno =>
      exact .inr (.inl ⟨u, hu, ⟨l, phase?_conclude hu l⟩, .inr ⟨hp, names, rfl, hno⟩⟩)
  | callOff hu hp _ hq =>
      obtain rfl := hsame hu (by rw [hp]; rfl)
      rw [Sweep.CutShort, hp] at hc
      exact (hc hq.symm).elim
  | overload hu hp _ _ _ =>
      exact .inr (.inr (crashes_of_fail ho hu (by rw [hp]; rfl) rfl rfl))
  | setOut hu hp _ hq _ => exact .inl (put hu rfl rfl rfl fun h => h.1 hq.symm)
  | collapse hu hp => exact .inr (.inr (crashes_of_fail ho hu (by rw [hp]; rfl) rfl rfl))
  | await hu hp _ hq _ => exact .inl (put hu rfl rfl rfl fun h => h.1 hq.symm)
  | stop hu hp hor =>
      obtain rfl := hsame hu (Sweep.inFlight_of_ready hp)
      refine .inl (put hu rfl rfl rfl fun hne => hc ?_)
      have hq := hor.resolve_left hne
      rcases hp with hp | hp <;> rw [Sweep.CutShort, hp] <;> exact ⟨hq.symm, hne⟩
  | @dispatch u x rest φ hu hp _ hq _ hφ =>
      rcases hφ with rfl | ⟨w, rfl⟩
      · exact .inl (put hu rfl rfl rfl fun h => h.1 hq.symm)
      · exact .inl (put hu rfl rfl rfl fun h => h.1 hq.symm)
  | stumble hu hp _ _ =>
      exact .inr (.inr (crashes_of_fail ho hu (Sweep.inFlight_of_ready hp) rfl rfl))
  | wake hu hp _ =>
      obtain rfl := hsame hu (by rw [hp]; rfl)
      rw [Sweep.CutShort, hp] at hc
      exact .inl (put hu rfl rfl rfl hc)
  | complete hu hp _ =>
      obtain rfl := hsame hu (by rw [hp]; rfl)
      exact .inr (.inl (serves_of_complete hu hp hc))
  | endProbe _ _ =>
      refine .inl (.inFlight _ (List.mem_map_of_mem hmem) ?_ ?_)
      · split <;> exact hf
      · split <;> exact hc
  | alarmBusy _ _ _ _ _ | alarmFollow _ _ _ =>
      obtain ⟨n, hplan⟩ := σ.planAhead_eq
      rw [hplan]
      exact .inl (stay hmem hf hc rfl)

/-- While no sweep is in flight, the next one to begin is not cut short. -/
theorem moves_ahead (hm : Moves σ t τ) (ho : Orderly σ) (hn : ¬ (Step.mk σ t τ).forgoes)
    (hs : σ.sweeping = false)
    (hq : ∀ s ∈ σ.sweeps, s.phase.isQueued = true → ¬ s.CutShort σ.pauses) (hw : σ.WillAsk) :
    Promised τ := by
  have hidle : ∀ {u : Sweep}, σ.sweep? u.id = some u → ¬ u.phase.inFlight = true := by
    intro u hu hf
    cases hs.symm.trans (ho.sweeps.busy_of u (mem_of_sweep? hu) hf)
  -- A sweep that is asked for now is not cut short, whoever asks.
  have hask : ∀ {p : Option Nat} (υ : Steering), υ.sweeps = σ.sweeps → υ.pauses = σ.pauses →
      υ.sweeping = false → p.getD σ.pauses = σ.pauses → Promised (υ.ask p) := by
    intro p υ hsweeps hpauses hsweeping hp
    refine .ahead hsweeping (fun s hmem hsq => ?_) (.inl ⟨_, List.mem_cons_self, rfl⟩)
    show ¬ s.CutShort υ.pauses
    rw [hpauses]
    rcases List.mem_cons.mp hmem with rfl | hmem
    · intro hc
      exact hc hp
    · exact hq s (hsweeps ▸ hmem) hsq
  cases hm with
  | keepArmed | refuse | adopt | remove | lookUp | endLookup | ping | pass => exact .ahead hs hq hw
  | armTimer => exact .ahead hs hq (.inr ⟨_, rfl, rfl, rfl⟩)
  | armOnce => exact hask { σ with armed := true } rfl rfl hs rfl
  | pause => exact (hn (.inl rfl)).elim
  | @disband o hv hcont =>
      rcases hw with hw | ⟨x, hx, -⟩
      · exact .ahead hs hq (.inl hw)
      · exact (hn (.inr ⟨(ho.timer x hx).1, o, rfl, hv, hcont⟩)).elim
  | request => exact hask σ rfl rfl hs rfl
  | turnAway _ _ hb => cases hs.symm.trans hb
  | @embark u p hu hp _ =>
      have hc := hq u (mem_of_sweep? hu) (by rw [hp]; rfl)
      rw [Sweep.CutShort, hp] at hc
      exact put hu rfl rfl rfl hc
  -- These are turns of a sweep in flight, and there is none.
  | abort hu hp _ => exact (hidle hu (by rw [hp]; rfl)).elim
  | callOff hu hp _ _ => exact (hidle hu (by rw [hp]; rfl)).elim
  | overload hu hp _ _ _ => exact (hidle hu (by rw [hp]; rfl)).elim
  | setOut hu hp _ _ _ => exact (hidle hu (by rw [hp]; rfl)).elim
  | collapse hu hp => exact (hidle hu (by rw [hp]; rfl)).elim
  | await hu hp _ _ _ => exact (hidle hu (by rw [hp]; rfl)).elim
  | stop hu hp _ => exact (hidle hu (Sweep.inFlight_of_ready hp)).elim
  | dispatch hu hp _ _ _ _ => exact (hidle hu (Sweep.inFlight_of_ready hp)).elim
  | stumble hu hp _ _ => exact (hidle hu (Sweep.inFlight_of_ready hp)).elim
  | wake hu hp _ => exact (hidle hu (by rw [hp]; rfl)).elim
  | complete hu hp _ => exact (hidle hu (by rw [hp]; rfl)).elim
  | endProbe _ _ =>
      refine .ahead hs (fun v hv hvq => ?_) ?_
      · obtain ⟨s, hmem, rfl⟩ := List.mem_map.mp hv
        have hsq : s.phase.isQueued = true := by
          split at hvq <;> exact hvq
        split <;> exact hq s hmem hsq
      · refine hw.imp_left fun ⟨s, hmem, hsq⟩ => ⟨_, List.mem_map_of_mem hmem, ?_⟩
        split <;> exact hsq
  | alarmOff hx _ hne => exact absurd (ho.timer _ hx).2.2.1.symm hne
  | alarmSet hx _ _ hdue _ =>
      rcases hw with hw | ⟨y, _, -, hnone⟩
      · exact .ahead hs hq (.inl hw)
      · cases hnone.symm.trans hdue
  | alarmBusy _ _ _ _ hb => cases hs.symm.trans hb
  | @alarmAsk x hx _ hpauses _ _ =>
      exact hask { σ with timer := some { x with alarm := .following σ.fresh } } rfl rfl hs
        hpauses.symm
  -- A timer that is about to have its first turn rings, and is neither set nor following.
  | alarmRing hx ha _ =>
      rcases hw with hw | ⟨y, hy, hring, -⟩
      · exact .ahead hs hq (.inl hw)
      · cases hx.symm.trans hy
        cases ha.symm.trans hring
  | alarmFollow hx ha _ =>
      rcases hw with hw | ⟨y, hy, hring, -⟩
      · obtain ⟨n, hplan⟩ := σ.planAhead_eq
        rw [hplan]
        exact .ahead hs hq (.inl hw)
      · cases hx.symm.trans hy
        cases ha.symm.trans hring
  | tickOff hx hne => exact absurd (ho.timer _ hx).2.2.1.symm hne
  | tick hx _ =>
      refine .ahead hs hq (hw.imp_right fun ⟨y, hy, hring, hnone⟩ => ⟨_, rfl, ?_, hnone⟩)
      cases hx.symm.trans hy
      exact hring

theorem moves (p : Promised σ) (ho : Orderly σ) (hm : Moves σ t τ)
    (hn : ¬ (Step.mk σ t τ).forgoes) :
    Promised τ ∨ (Step.mk σ t τ).serves ∨ (Step.mk σ t τ).crashes := by
  cases p with
  | inFlight s hmem hf hc => exact moves_inFlight hm ho hn hmem hf hc
  | ahead hs hq hw => exact .inl (moves_ahead hm ho hn hs hq hw)

end Promised

/-! ## Requests that are served -/

namespace Census

/-- **`Served b`** — whatever happens from `b` on, unless the owner takes the request back: once no
sweep is in flight and every task waits, a sweep has ended that was not cut short, or has failed
beyond recovery. -/
def Served (b : Census) : Prop :=
  ∀ h d, Run b h d → (∀ x ∈ h, ¬ x.forgoes) → d.sweeping = false → d.AllWait →
    ∃ x ∈ h, x.serves ∨ x.crashes

theorem Run.promised {b d : Census} {h : List Step} (hr : Run b h d) (ho : Orderly b.steering)
    (hp : Promised b.steering) (hn : ∀ x ∈ h, ¬ x.forgoes) :
    Promised d.steering ∨ ∃ x ∈ h, x.serves ∨ x.crashes := by
  induction hr with
  | start => exact .inl hp
  | turn hr ht ih =>
      obtain ⟨hx, hn⟩ := List.forall_mem_cons.mp hn
      rcases ih hn with hp | ⟨x, hmem, hx⟩
      · rcases hp.moves (hr.orderly ho) (take_moves ht) hx with hp | hserves
        · exact .inl hp
        · exact .inr ⟨_, List.mem_cons_self, hserves⟩
      · exact .inr ⟨x, List.mem_cons_of_mem _ hmem, hx⟩

/-- A census with something promised is not at rest. -/
theorem not_promised_of_allWait {d : Census} (hs : d.sweeping = false) (ho : Orderly d.steering)
    (hw : d.AllWait) : ¬ Promised d.steering := by
  rintro (⟨s, hmem, hf, -⟩ | ⟨-, -, ⟨s, hmem, hq⟩ | ⟨x, hx, hring, -⟩⟩)
  · cases hs.symm.trans (ho.sweeps.busy_of s hmem hf)
  · cases (hw.isQueued ho hmem).symm.trans hq
  · cases (hw .alarm rfl).symm.trans (take_alarm_of_ringing hx hring)

/-- **`served_of_not_blocked`** — when sweeping is started and no sweep that was cut short stands in
the way, the request is served. -/
theorem served_of_not_blocked {a b : Census} {t : Turn} (ho : Orderly a.steering)
    (hab : a.take t = some b) (ht : t.isStart = true) (ha : a.armed = false)
    (hb : ¬ a.steering.Blocked) : b.Served := by
  intro h d hr hn hs hw
  have hm := take_moves hab
  have hob : Orderly b.steering := ho.moves hm
  have hp : Promised b.steering := Promised.of_start hm ho ht ha hb
  exact (hr.promised hob hp hn).resolve_left (not_promised_of_allWait hs (hr.orderly hob) hw)

end Census

end LanCensus
