/-
# LanCensus.Proofs.Census.WindDown -- how a request is lost

A census that is started again while a sweep is cut short can come to rest without any other sweep,
and without anybody's doing: the sweeps that wait for their turn are turned away, the probes end,
the timer finds a sweep in flight and sleeps for an interval, and then the sweep that was cut short
comes to its end. `Leads c P` is a run of turns of which none serves the request or takes it back,
and the stages of that end follow one another by `Leads.trans`.

Together with `served_of_not_blocked` this settles which requests are served (`start_served`).
-/

import LanCensus.Proofs.Census.Request
import LanCensus.Proofs.Census.Supply

namespace LanCensus

/-! ## Idle runs -/

/-- A turn that neither serves a request nor fails a sweep, and does not take the request back. -/
structure Step.IsIdle (x : Step) : Prop where
  forgoes : ¬ x.forgoes
  serves : ¬ x.serves
  crashes : ¬ x.crashes

theorem Step.serves.ends {x : Step} (h : x.serves) : x.ends := by
  obtain ⟨s, hs, hl, ⟨hp, -⟩ | ⟨hp, -⟩⟩ := h
  · exact ⟨s.id, ⟨s.phase, Steering.phase?_of_sweep? hs, by rw [hp]; rfl⟩, hl⟩
  · exact ⟨s.id, ⟨s.phase, Steering.phase?_of_sweep? hs, by rw [hp]; rfl⟩, hl⟩

/-- Whether the owner could take a request back with the turn. -/
def Turn.mayForgo : Turn → Bool
  | .pause | .setOptions _ => true
  | _ => false

theorem Step.not_forgoes {σ τ : Steering} {t : Turn} (ht : t.mayForgo = false) :
    ¬ (Step.mk σ t τ).forgoes := by
  rintro (rfl | ⟨-, o, rfl, -⟩) <;> cases ht

/-- While the sweep in flight goes on, nothing is served. -/
theorem Steering.GoesOn.isIdle {σ τ : Steering} {t : Turn} (hg : σ.GoesOn τ)
    (ht : t.mayForgo = false) : (Step.mk σ t τ).IsIdle :=
  ⟨Step.not_forgoes ht, fun h => hg.not_ends h.ends, hg.not_crashes⟩

namespace Census

/-- **`Leads c P`** — some run of idle turns leads from `c` to a census with `P`. -/
def Leads (c : Census) (P : Census → Prop) : Prop :=
  ∃ h d, Run c h d ∧ (∀ x ∈ h, x.IsIdle) ∧ P d

namespace Leads

variable {c e : Census} {P Q : Census → Prop}

theorem done (hp : P c) : c.Leads P := ⟨[], c, .start, by simp, hp⟩

theorem trans (h : c.Leads P) (hq : ∀ d, P d → d.Leads Q) : c.Leads Q := by
  obtain ⟨h₁, d, hr₁, hi₁, hp⟩ := h
  obtain ⟨h₂, e, hr₂, hi₂, hq⟩ := hq d hp
  refine ⟨h₂ ++ h₁, e, hr₁.append hr₂, fun x hx => ?_, hq⟩
  rcases List.mem_append.mp hx with hx | hx
  · exact hi₂ x hx
  · exact hi₁ x hx

/-- The order is kept on the way. -/
theorem orderly (h : c.Leads P) (ho : Orderly c.steering) :
    c.Leads fun d => P d ∧ Orderly d.steering := by
  obtain ⟨h, d, hr, hi, hp⟩ := h
  exact ⟨h, d, hr, hi, hp, hr.orderly ho⟩

/-- An idle turn comes first. -/
theorem turn {t : Turn} (ht : c.take t = some e) (hx : (Step.mk c.steering t e.steering).IsIdle)
    (h : e.Leads Q) : c.Leads Q := by
  refine trans (P := fun d => d = e) ⟨_, e, Run.start.turn ht, ?_, rfl⟩ ?_
  · intro x hm
    obtain rfl := List.mem_singleton.mp hm
    exact hx
  · rintro d rfl
    exact h

end Leads

end Census

/-! ## A census that winds down -/

/-- A sweep that has not set out or dispatches no more; if it is cut short, only its end is left. -/
def Sweep.AtEnd (s : Sweep) : Prop := s.phase = .listing ∨ s.phase = .draining

/-- **`Waning c s`** — the sweep `s` is in flight and cut short, the timer has not had a turn, and
the clock is not at the end of its range. -/
structure Waning (c : Census) (s : Sweep) : Prop where
  orderly : Orderly c.steering
  supplied : Supplied c.steering
  found : c.steering.sweep? s.id = some s
  inFlight : s.phase.inFlight = true
  cut : s.CutShort c.pauses
  unset : ∀ x, c.timer = some x → x.alarm = .ringing ∧ c.nextSweep = none
  early : c.now < Instant.last
  wake : ∀ w, s.phase = .resting w → w < Instant.last

namespace Waning

open Census Steering

variable {c e : Census} {s s' : Sweep} {t : Turn}

theorem mem (w : Waning c s) : s ∈ c.sweeps := mem_of_sweep? w.found

theorem sweeping (w : Waning c s) : c.sweeping = true :=
  w.orderly.sweeps.busy_of s w.mem w.inFlight

/-- The sweep gives its place to one that is still cut short, and the timer is left alone. -/
theorem turn (w : Waning c s) (ht : c.take t = some e) (hsame : c.steering.Agree e.steering)
    (htimer : e.timer = c.timer) (hnow : e.now < Instant.last)
    (hfound : e.steering.sweep? s'.id = some s') (hf : s'.phase.inFlight = true)
    (hcut : s'.CutShort c.pauses)
    (hwake : ∀ i, s'.phase = .resting i → i < Instant.last) : Waning e s' where
  orderly := w.orderly.moves (take_moves ht)
  supplied := w.supplied.moves w.orderly (take_moves ht)
  found := hfound
  inFlight := hf
  cut := by
    rw [show e.pauses = c.pauses from hsame.pauses]
    exact hcut
  unset x hx := by
    rw [show e.nextSweep = c.nextSweep from hsame.nextSweep]
    exact w.unset x (htimer ▸ hx)
  early := hnow
  wake := hwake

/-- The sweep goes from one phase to another. -/
theorem put (w : Waning c s) (ht : c.take t = some (c.putSweep s')) (hid : s'.id = s.id)
    (hf : s'.phase.inFlight = true) (hcut : s'.CutShort c.pauses)
    (hwake : ∀ i, s'.phase = .resting i → i < Instant.last) : Waning (c.putSweep s') s' := by
  refine w.turn ht ⟨rfl, rfl, rfl, rfl⟩ rfl w.early ?_ hf hcut hwake
  rw [hid]
  exact sweep?_put_self w.found hid

/-- Such a turn is idle. -/
theorem isIdle_put (w : Waning c s) (ht : t.mayForgo = false) (hid : s'.id = s.id)
    (hf : s'.phase.inFlight = true) :
    (Step.mk c.steering t (c.putSweep s').steering).IsIdle := by
  have hg : c.steering.GoesOn (c.steering.put s') := GoesOn.put w.found hid fun _ => hf
  exact hg.isIdle ht

/-! ### The probes end -/

/-- The end of a probe leaves the sweep where it is. -/
theorem release (w : Waning c s) {p : Probe} (hp : c.steering.probe? p.id = some p)
    (hb : p.begun = true) : ∃ s', s'.id = s.id ∧ Waning (c.release p false) s' := by
  let s' : Sweep :=
    if s.id = p.sweep then { s with permits := s.permits + 1, answered := s.answered + 0 } else s
  have hsame : s'.id = s.id ∧ s'.phase = s.phase ∧ s'.pauses = s.pauses ∧
      s'.targets = s.targets := by
    by_cases h : s.id = p.sweep <;> simp only [s', h, if_true, if_false, and_self]
  obtain ⟨hid, hphase, hpauses, htargets⟩ := hsame
  have hfound : (c.release p false).steering.sweep? s.id = some s' := by
    show (c.sweeps.map _).find? _ = _
    rw [find?_map_id, show c.sweeps.find? (·.id == s.id) = some s from w.found, Option.map_some]
    · rfl
    · intro u
      split <;> rfl
  have ht := take_endProbe hp hb .crashed
  refine ⟨s', hid, w.turn ht ⟨rfl, rfl, rfl, rfl⟩ rfl w.early ?_ ?_ ?_ ?_⟩
  · rw [hid]
    exact hfound
  · rw [hphase]
    exact w.inFlight
  · exact (Sweep.cutShort_of_eq hphase hpauses htargets).mpr w.cut
  · rw [hphase]
    exact w.wake

theorem leads_release (w : Waning c s) {p : Probe} (hp : c.steering.probe? p.id = some p)
    (hb : p.begun = true) :
    c.Leads fun e => (∃ s', Waning e s') ∧ e.probes.length < c.probes.length := by
  have hg : c.steering.GoesOn (c.release p false).steering :=
    GoesOn.of_phases (phase?_release c.steering p false)
  refine Leads.turn (take_endProbe hp hb .crashed) (hg.isIdle rfl) (Leads.done ⟨?_, ?_⟩)
  · obtain ⟨s', -, hs'⟩ := w.release hp hb
    exact ⟨s', hs'⟩
  · refine List.length_filter_lt_length_iff_exists.mpr ⟨p, List.mem_of_find?_eq_some hp, ?_⟩
    simp

/-- A probe can be made to end: it pings its address, if it has not done so, and fails. -/
theorem leads_fewer_probes (w : Waning c s) (hne : c.probes ≠ []) :
    c.Leads fun e => (∃ s', Waning e s') ∧ e.probes.length < c.probes.length := by
  obtain ⟨q, hq⟩ := List.exists_mem_of_ne_nil _ hne
  obtain ⟨p, hp⟩ : ∃ p, c.steering.probe? q.id = some p :=
    Option.isSome_iff_exists.mp (List.find?_isSome.mpr ⟨q, hq, beq_self_eq_true q.id⟩)
  rw [← id_of_probe? hp] at hp
  cases hb : p.begun with
  | true => exact w.leads_release hp hb
  | false =>
      have ht := take_ping hp hb
      have hg : c.steering.GoesOn (c.ping p).steering := GoesOn.of_phases fun _ => rfl
      have w' : Waning (c.ping p) s :=
        w.turn ht ⟨rfl, rfl, rfl, rfl⟩ rfl w.early w.found w.inFlight w.cut w.wake
      have hlen : (c.ping p).probes.length = c.probes.length := List.length_map _
      refine Leads.turn ht (hg.isIdle rfl) ?_
      rw [← hlen]
      have hp' : (c.ping p).steering.probe? p.id = some { p with begun := true } := probe?_ping hp
      exact w'.leads_release (p := { p with begun := true }) hp' rfl

/-- All probes can be made to end. -/
theorem leads_no_probes (n : Nat) :
    ∀ {c s}, Waning c s → c.probes.length = n →
      c.Leads fun e => (∃ s', Waning e s') ∧ e.probes = [] := by
  -- Each round makes one probe end; the sweep changes on the way, so it varies with the census.
  induction n using Nat.strongRecOn with
  | ind n ih =>
      intro c s w hn
      by_cases hnil : c.probes = []
      · exact Leads.done ⟨⟨s, w⟩, hnil⟩
      · refine (w.leads_fewer_probes hnil).trans ?_
        rintro e ⟨⟨s', w'⟩, hlt⟩
        exact ih _ (hn ▸ hlt) w' rfl

/-! ### The sweep dispatches no more -/

theorem leads_draining (w : Waning c s) (hno : c.probes = [])
    (hp : s.phase = .ready ∨ s.phase = .waiting) :
    c.Leads fun e => ∃ s', Waning e s' ∧ e.probes = [] ∧ s'.AtEnd := by
  have hcut : s.pauses ≠ c.pauses ∧ s.targets ≠ [] := by
    have h := w.cut
    rcases hp with hp | hp <;> rw [Sweep.CutShort, hp] at h <;> exact h
  -- There are no probes, so a sweep that waits for a permit has one by now.
  have hready : s.phase = .ready ∨ (s.phase = .waiting ∧ 0 < s.permits) := by
    refine hp.imp_right fun hwait => ⟨hwait, Nat.pos_of_ne_zero fun hz => ?_⟩
    obtain ⟨p, hmem, -⟩ := w.supplied.permits s w.mem (by rw [hwait]; rfl) hz
    rw [show c.steering.probes = [] from hno] at hmem
    cases hmem
  have ht := (take_proceed w.found).trans (proceed_of_paused hready hcut.1.symm hcut.2)
  have w' : Waning (c.putSweep { s with phase := .draining }) { s with phase := .draining } :=
    w.put ht rfl rfl hcut.2 (by
      intro i hi
      cases hi)
  exact Leads.turn ht (w.isIdle_put rfl rfl rfl) (Leads.done ⟨_, w', hno, .inr rfl⟩)

/-- A sweep that rests is woken, if need be by letting the time pass. -/
theorem leads_awake (w : Waning c s) (hno : c.probes = []) {i : Instant}
    (hp : s.phase = .resting i) :
    c.Leads fun e => ∃ s', Waning e s' ∧ e.probes = [] ∧ s'.phase = .ready := by
  have hrise : ∀ {d : Census}, Waning d s → d.probes = [] → i ≤ d.now →
      d.Leads fun e => ∃ s', Waning e s' ∧ e.probes = [] ∧ s'.phase = .ready := by
    intro d w hno hi
    have ht := (take_proceed w.found).trans (proceed_of_resting hp hi)
    have hcut := w.cut
    rw [Sweep.CutShort, hp] at hcut
    have w' : Waning (d.putSweep { s with phase := .ready }) { s with phase := .ready } :=
      w.put ht rfl rfl hcut (by
        intro i hi
        cases hi)
    exact Leads.turn ht (w.isIdle_put rfl rfl rfl) (Leads.done ⟨_, w', hno, rfl⟩)
  by_cases hi : i ≤ c.now
  · exact hrise w hno hi
  · have ht : c.take (.pass i) = some { c with now := i } :=
      take_pass (Instant.le_of_lt (Instant.not_le.mp hi))
    have hg : c.steering.GoesOn { c.steering with now := i } := GoesOn.of_phases fun _ => rfl
    refine Leads.turn ht (hg.isIdle rfl) (hrise ?_ hno (Instant.le_refl i))
    exact w.turn ht ⟨rfl, rfl, rfl, rfl⟩ rfl (w.wake i hp) w.found w.inFlight w.cut w.wake

/-- Without probes the sweep comes to where only its end is left. -/
theorem leads_atEnd (w : Waning c s) (hno : c.probes = []) :
    c.Leads fun e => ∃ s', Waning e s' ∧ e.probes = [] ∧ s'.AtEnd := by
  have hf := w.inFlight
  cases hp : s.phase with
  | listing => exact Leads.done ⟨s, w, hno, .inl hp⟩
  | draining => exact Leads.done ⟨s, w, hno, .inr hp⟩
  | ready => exact w.leads_draining hno (.inl hp)
  | waiting => exact w.leads_draining hno (.inr hp)
  | resting i =>
      refine (w.leads_awake hno hp).trans ?_
      rintro e ⟨s', w', hno', hp'⟩
      exact w'.leads_draining hno' (.inl hp')
  | queued p =>
      rw [hp] at hf
      cases hf
  | ended l =>
      rw [hp] at hf
      cases hf
  | crashed =>
      rw [hp] at hf
      cases hf

/-! ### The others are turned away -/

/-- A sweep that has not begun is turned away. -/
theorem leads_turnAway (w : Waning c s) {u : Sweep} (hu : u ∈ c.sweeps)
    (hq : u.phase.isQueued = true) :
    c.Leads fun e => Waning e s ∧ e.probes = c.probes ∧
      ∀ v ∈ e.sweeps, v.phase.isQueued = true → v ∈ c.sweeps ∧ v.id ≠ u.id := by
  have hfound : c.steering.sweep? u.id = some u := w.orderly.sweep?_of_mem hu
  obtain ⟨p, hp⟩ := Sweep.Phase.exists_queued hq
  have hidle : ¬ u.phase.inFlight = true := by
    rw [hp]
    exact Bool.false_ne_true
  have hne : s.id ≠ u.id := by
    intro he
    rw [← w.orderly.sweeps.eq_of_id w.mem hu he] at hidle
    exact hidle w.inFlight
  let u' : Sweep := { u with phase := .ended c.inventory.toList }
  have ht : c.take (.embark u.id) = some (c.putSweep u') := by
    rw [take_embark hfound hp, embark, hp]
    exact congrArg some (if_pos w.sweeping)
  have hg : c.steering.GoesOn (c.steering.put u') :=
    GoesOn.put hfound rfl fun hf => (hidle hf).elim
  refine Leads.turn ht (hg.isIdle rfl) (Leads.done ⟨?_, rfl, fun v hv hvq => ?_⟩)
  · refine w.turn ht ⟨rfl, rfl, rfl, rfl⟩ rfl w.early ?_ w.inFlight w.cut w.wake
    have hput : (c.steering.put u').sweep? s.id = c.steering.sweep? s.id := sweep?_put_of_ne hne
    exact hput.trans w.found
  · rcases mem_put (σ := c.steering) (s := u') hv with rfl | ⟨hv, hvne⟩
    · cases hvq
    · exact ⟨hv, hvne⟩

/-- All sweeps that have not begun are turned away; `ids` holds their numbers. -/
theorem leads_unqueued (ids : List Nat) :
    ∀ {c : Census}, Waning c s → c.probes = [] →
      (∀ u ∈ c.sweeps, u.phase.isQueued = true → u.id ∈ ids) →
      c.Leads fun e => Waning e s ∧ e.probes = [] ∧ ∀ u ∈ e.sweeps, u.phase.isQueued = false := by
  induction ids with
  | nil =>
      intro c w hno hids
      refine Leads.done ⟨w, hno, fun u hu => Bool.eq_false_iff.mpr fun hq => ?_⟩
      exact List.not_mem_nil (hids u hu hq)
  | cons id ids ih =>
      intro c w hno hids
      by_cases h : ∃ u ∈ c.sweeps, u.id = id ∧ u.phase.isQueued = true
      · obtain ⟨u, hu, rfl, hq⟩ := h
        refine (w.leads_turnAway hu hq).trans ?_
        rintro e ⟨w', hno', hrest⟩
        apply ih w' (hno'.trans hno)
        intro v hv hvq
        obtain ⟨hv, hne⟩ := hrest v hv hvq
        exact (List.mem_cons.mp (hids v hv hvq)).resolve_left hne
      · apply ih w hno
        intro v hv hvq
        exact (List.mem_cons.mp (hids v hv hvq)).resolve_left fun he => h ⟨v, hv, he, hvq⟩

end Waning

/-! ## The timer goes to sleep -/

/-- **`Asleep c`** — the alarm of the timer and its countdown are set to instants after now. -/
def Census.Asleep (c : Census) : Prop :=
  ∀ x, c.timer = some x → ∃ i k, x.alarm = .set i ∧ c.now < i ∧ x.tick = some k ∧ c.now < k

namespace Census

open Steering

variable {c : Census}

/-- A tick that is due changes nothing but when the next one is. -/
theorem exists_tick (ho : Orderly c.steering) {x : Timer} (hx : c.timer = some x)
    (hdue : x.tick.getD c.now ≤ c.now) :
    ∃ e, c.take .tick = some e ∧ (Step.mk c.steering .tick e.steering).IsIdle ∧
      e.steering = { c.steering with
        timer := some { x with tick := some (Timer.nextTick (x.tick.getD c.now) c.now) } } := by
  obtain ⟨-, -, hp, -, hk⟩ := ho.timer x hx
  refine ⟨_, take_tick hx hk hp hdue, ?_⟩
  rw [steering_putTimer, steering_countDown]
  have hg : ∀ y, c.steering.GoesOn { c.steering with timer := some y } := fun _ =>
    GoesOn.of_phases fun _ => rfl
  exact ⟨(hg _).isIdle rfl, rfl⟩

/-- After at most two ticks the next one is not due yet. -/
theorem leads_tick (ho : Orderly c.steering) {x : Timer} (hx : c.timer = some x) :
    c.Leads fun e => ∃ k, c.now < k ∧
      e.steering = { c.steering with timer := some { x with tick := some k } } := by
  by_cases hdue : x.tick.getD c.now ≤ c.now
  · obtain ⟨e, ht, hi, he⟩ := exists_tick ho hx hdue
    refine Leads.turn ht hi ?_
    by_cases hlt : c.now < Timer.nextTick (x.tick.getD c.now) c.now
    · exact Leads.done ⟨_, hlt, he⟩
    · -- The tick was due within a leap second; the one after it is plain.
      have hnow : e.now = c.now := congrArg Steering.now he
      have htimer : e.timer = some _ := congrArg Steering.timer he
      have hdue' : Timer.nextTick (x.tick.getD c.now) c.now ≤ e.now := by
        rw [hnow]
        exact Instant.not_lt.mp hlt
      obtain ⟨e', ht', hi', he'⟩ := exists_tick (ho.moves (take_moves ht)) htimer hdue'
      refine Leads.turn ht' hi' (Leads.done ⟨_, ?_, he'.trans (by rw [he])⟩)
      rw [hnow]
      exact Timer.lt_nextTick (Timer.nextTick_isPlain _ _)
  · cases hk : x.tick with
    | none =>
        rw [hk] at hdue
        exact absurd (Instant.le_refl c.now) hdue
    | some k =>
        rw [hk] at hdue
        refine Leads.done ⟨k, Instant.not_le.mp hdue, ?_⟩
        rw [← hk, ← hx]
        rfl

/-- A timer that finds a sweep in flight sleeps for an interval. -/
theorem leads_asleep {s : Sweep} (w : Waning c s) :
    c.Leads fun e => e.Asleep ∧
      ∃ n x, e.steering = { c.steering with nextSweep := n, timer := x } := by
  cases hx : c.timer with
  | none =>
      refine Leads.done ⟨fun x h => ?_, c.nextSweep, c.timer, rfl⟩
      cases hx.symm.trans h
  | some x =>
      obtain ⟨hring, hnone⟩ := w.unset x hx
      obtain ⟨-, hcont, hp, -, -⟩ := w.orderly.timer x hx
      have hg : ∀ n y, c.steering.GoesOn { c.steering with nextSweep := n, timer := y } :=
        fun _ _ => GoesOn.of_phases fun _ => rfl
      -- It first makes a plan, and then sets its alarm to it.
      let due := dueAfter c.now c.options.interval
      have hlt : c.now < due := lt_dueAfter w.early (w.orderly.valid.interval_pos hcont)
      have hahead : c.nothingAhead = true := by rw [nothingAhead, hnone]
      have hplan : c.planAhead = c.setNextSweep (some due) := if_pos hahead
      let c₁ := (c.setNextSweep (some due)).putTimer { x with alarm := .ringing }
      have h₁ : c.take .alarm = some c₁ := by
        rw [take_alarm_of_ringing hx hring, ring_busy hp hahead w.sweeping, hplan]
      have e₁ : c₁.steering = { c.steering with
          nextSweep := some due, timer := some { x with alarm := .ringing } } := by
        rw [steering_putTimer, steering_setNextSweep]
      let c₂ := c₁.putTimer { x with alarm := .set due }
      have h₂ : c₁.take .alarm = some c₂ := by
        have hnow : c₁.now = c.now := congrArg Steering.now e₁
        rw [take_alarm_of_ringing rfl rfl]
        refine congrArg some (ring_set ?_ (congrArg Steering.nextSweep e₁) (hnow ▸ hlt))
        exact hp.trans (congrArg Steering.pauses e₁).symm
      have e₂ : c₂.steering = { c.steering with
          nextSweep := some due, timer := some { x with alarm := .set due } } := by
        rw [steering_putTimer, e₁]
      have o₂ : Orderly c₂.steering := (w.orderly.moves (take_moves h₁)).moves (take_moves h₂)
      refine Leads.turn h₁ ?_ (Leads.turn h₂ ?_ ((leads_tick o₂ rfl).trans ?_))
      · rw [e₁]
        exact (hg _ _).isIdle rfl
      · rw [e₁, e₂]
        exact GoesOn.isIdle (GoesOn.of_phases fun _ => rfl) rfl
      · rintro e ⟨k, hk, he⟩
        rw [e₂] at he
        have hnow : c₂.now = c.now := congrArg Steering.now e₂
        refine Leads.done ⟨fun y hy => ?_, _, _, he⟩
        obtain rfl := Option.some.inj ((congrArg Steering.timer he).symm.trans hy)
        have hnow' : e.now = c.now := congrArg Steering.now he
        rw [hnow']
        exact ⟨due, k, rfl, hlt, rfl, hnow ▸ hk⟩

end Census

/-! ## The end of the sweep -/

namespace Census

open Steering

variable {c d : Census} {s : Sweep}

/-- A census waits if no sweep is left, no probe, and the timer is asleep. -/
theorem allWait_of_asleep (ho : Orderly c.steering) (hs : c.sweeping = false)
    (hq : ∀ u ∈ c.sweeps, u.phase.isQueued = false) (hno : c.probes = []) (ha : c.Asleep) :
    c.AllWait := by
  have hidle : ∀ u ∈ c.sweeps, u.phase.inFlight = false := fun u hu =>
    Bool.eq_false_iff.mpr fun hf => by cases hs.symm.trans (ho.sweeps.busy_of u hu hf)
  refine waits_iff.mp ?_
  simp only [waits, Bool.and_eq_true, List.all_eq_true, Option.isNone_iff_eq_none]
  refine ⟨⟨⟨fun u hu => ?_, ?_⟩, ?_⟩, ?_⟩
  · have hfound : c.sweep? u.id = some u := ho.sweep?_of_mem hu
    have hqu := hq u hu
    have hfu := hidle u hu
    rw [take_proceed hfound, take, hfound, proceed]
    cases hp : u.phase with
    | ended l => simp [hp]
    | crashed => simp [hp]
    | queued p =>
        rw [hp] at hqu
        cases hqu
    | _ =>
        rw [hp] at hfu
        cases hfu
  · intro p hp
    rw [hno] at hp
    cases hp
  · show c.timerTurn = none
    cases hx : c.timer with
    | none => rw [timerTurn, hx]; rfl
    | some x =>
        obtain ⟨i, -, hset, hlt, -⟩ := ha x hx
        rw [timerTurn, hx, Option.bind_eq_bind, Option.bind_some]
        simp only [hset]
        exact if_neg (Instant.not_le.mpr hlt)
  · cases hx : c.timer with
    | none => rw [take, tickTurn, hx]; rfl
    | some x =>
        obtain ⟨-, k, -, -, hk, hlt⟩ := ha x hx
        exact take_tick_none hx hk hlt

/-- After the end of the last sweep a census with a sleeping timer is at rest. -/
theorem allWait_of_conclude {n : Option Instant} {l : List Device} (ho : Orderly d.steering)
    (hd : d.steering = ({ c.steering with nextSweep := n }).conclude s l)
    (hq : ∀ u ∈ c.sweeps, u.phase.isQueued = false) (hno : c.probes = []) (ha : c.Asleep) :
    d.sweeping = false ∧ d.AllWait := by
  have hs : d.sweeping = false := congrArg Steering.sweeping hd
  have hnow : d.now = c.now := congrArg Steering.now hd
  refine ⟨hs, allWait_of_asleep ho hs (fun u hu => ?_) ?_ fun x hx => ?_⟩
  · rw [show d.sweeps = _ from congrArg Steering.sweeps hd] at hu
    rcases mem_put hu with rfl | ⟨hu, -⟩
    · rfl
    · exact hq u hu
  · exact (congrArg Steering.probes hd).trans hno
  · rw [hnow]
    exact ha x ((congrArg Steering.timer hd).symm.trans hx)

/-- The end of a sweep that was cut short serves nothing. -/
theorem isIdle_conclude {t : Turn} (ho : Orderly c.steering)
    (hs : c.steering.sweep? s.id = some s) (hf : s.phase.inFlight = true) {l : List Device}
    (hd : d.steering.phase? s.id = some (.ended l)) (ht : t.mayForgo = false)
    (hdrain : s.phase = .draining → s.targets ≠ [])
    (hlist : ∀ names, t = .list s.id names → ¬ NoSubnets names) :
    (Step.mk c.steering t d.steering).IsIdle where
  forgoes := Step.not_forgoes ht
  crashes := by
    rw [ho.crashes_iff hs hf hd]
    simp
  serves := by
    rintro ⟨u, hu, -, h⟩
    obtain rfl : u = s := by
      refine ho.sweeps.alone u (mem_of_sweep? hu) s (mem_of_sweep? hs) ?_ hf
      rcases h with ⟨hp, -⟩ | ⟨hp, -⟩ <;> rw [show u.phase = _ from hp] <;> rfl
    rcases h with ⟨hp, hnil⟩ | ⟨-, names, hturn, hnone⟩
    · exact hdrain hp hnil
    · exact hlist names hturn hnone

/-- **`leads_rest`** — a sweep that was cut short can come to its end, and then the census rests. -/
theorem leads_rest (ho : Orderly c.steering) (hs : c.steering.sweep? s.id = some s)
    (hh : s.AtEnd) (hcut : s.CutShort c.pauses) (hno : c.probes = [])
    (hq : ∀ u ∈ c.sweeps, u.phase.isQueued = false) (ha : c.Asleep) :
    c.Leads fun d => d.sweeping = false ∧ d.AllWait := by
  rcases hh with hp | hp
  -- It may still be listing: then it is told a subnet, and notices the pause.
  · rw [Sweep.CutShort, hp] at hcut
    have hnamed : named ["192.168.1"] ≠ [] := by decide +kernel
    have ht : c.take (.list s.id (.ok ["192.168.1"])) =
        some ((c.complainInvalid ["192.168.1"]).finish s) :=
      (take_list hs hp _).trans (congrArg some (listed_of_paused hnamed (Ne.symm hcut)))
    obtain ⟨l, hd⟩ : ∃ l, ((c.complainInvalid ["192.168.1"]).finish s).steering =
        c.steering.conclude s l := by
      rw [steering_finish, steering_complainInvalid]
      exact ⟨_, rfl⟩
    refine Leads.turn ht ?_ (Leads.done ?_)
    · refine isIdle_conclude ho hs (by rw [hp]; rfl) (l := l) ?_ rfl ?_ ?_
      · rw [hd]
        exact phase?_conclude hs l
      · intro h
        cases hp.symm.trans h
      · intro names hn hnone
        cases hn
        exact hnamed hnone
    · exact allWait_of_conclude (ho.moves (take_moves ht)) (n := c.nextSweep) hd hq hno ha
  · rw [Sweep.CutShort, hp] at hcut
    have ht := (take_proceed hs).trans (proceed_of_draining hp hno)
    obtain ⟨l, hd⟩ := steering_complete c s
    refine Leads.turn ht ?_ (Leads.done ?_)
    · refine isIdle_conclude ho hs (by rw [hp]; rfl) (l := l) ?_ rfl (fun _ => hcut) ?_
      · rw [hd]
        exact phase?_conclude ((sweep?_publish c.steering s s.id).trans hs) l
      · intro names hn
        cases hn
    · obtain ⟨n, hn⟩ := c.steering.publish_eq s
      rw [hn] at hd
      exact allWait_of_conclude (ho.moves (take_moves ht)) hd hq hno ha

end Census

/-! ## Requests that are lost -/

/-- What a start leaves as it was. -/
theorem Moves.of_start {σ τ : Steering} {t : Turn} (hm : Moves σ t τ) (ho : Orderly σ)
    (ht : t.isStart = true) (ha : σ.armed = false) :
    (∀ s ∈ σ.sweeps, s ∈ τ.sweeps) ∧ τ.now = σ.now ∧ τ.pauses = σ.pauses ∧
      τ.sweeping = σ.sweeping ∧
      ∀ x, τ.timer = some x → x.alarm = .ringing ∧ τ.nextSweep = none := by
  cases hm with
  | keepArmed _ h => cases ha.symm.trans h
  | armTimer =>
      refine ⟨fun s hs => hs, rfl, rfl, rfl, fun x hx => ?_⟩
      cases hx
      exact ⟨rfl, rfl⟩
  | armOnce =>
      refine ⟨fun s hs => List.mem_cons_of_mem _ hs, rfl, rfl, rfl, fun x hx => ?_⟩
      cases ha.symm.trans (ho.timer x hx).1
  | _ => cases ht

namespace Census

open Steering

/-- The clock of the census, and every instant that a sweep rests until, lie before the end of the
range of instants. -/
def InTime (c : Census) : Prop :=
  c.now < Instant.last ∧ ∀ s ∈ c.sweeps, ∀ w, s.phase = .resting w → w < Instant.last

/-- A sweep that stands in the way of a start is in flight, or can begin. -/
theorem leads_waning {a b : Census} {t : Turn} (ho : Orderly a.steering)
    (hsup : Supplied a.steering) (hab : a.take t = some b) (ht : t.isStart = true)
    (ha : a.armed = false) (hb : a.steering.Blocked) (htime : a.InTime) :
    b.Leads fun d => ∃ s, Waning d s := by
  have hm := take_moves hab
  have hob := ho.moves hm
  have hsb := hsup.moves ho hm
  obtain ⟨hmem, hnow, hpauses, hsweeping, hunset⟩ := hm.of_start ho ht ha
  obtain ⟨s, hs, hcut, hor⟩ := hb
  have hfound : b.steering.sweep? s.id = some s := hob.sweep?_of_mem (hmem s hs)
  have hearly : b.now < Instant.last := by
    rw [show b.now = a.now from hnow]
    exact htime.1
  rw [← hpauses] at hcut
  rcases hor with hf | ⟨hq, hidle⟩
  · exact Leads.done ⟨s, hob, hsb, hfound, hf, hcut, hunset, hearly, htime.2 s hs⟩
  -- A sweep that has not begun begins now; it keeps the pauses of its old request.
  · obtain ⟨p, hp⟩ := Sweep.Phase.exists_queued hq
    rw [Sweep.CutShort, hp] at hcut
    let s' : Sweep :=
      { s with phase := .listing, pauses := p.getD b.pauses, options := b.options }
    have hte := take_embark hfound hp
    have he : (b.embark s).steering = ({ b.steering with sweeping := true }).put s' := by
      have hidle' : b.sweeping = false := hsweeping.trans hidle
      rw [embark, hp]
      simp only [hidle']
      rfl
    have hput : b.steering.GoesOn (b.steering.put s') := GoesOn.put hfound rfl fun _ => rfl
    have hg : b.steering.GoesOn (b.embark s).steering := by
      rw [he]
      exact hput
    have hme := take_moves hte
    refine Leads.turn hte (hg.isIdle rfl) (Leads.done ⟨s', ?_⟩)
    refine ⟨hob.moves hme, hsb.moves hob hme, ?_, rfl, ?_, ?_, ?_, ?_⟩
    · have hput : (({ b.steering with sweeping := true }).put s').sweep? s.id = some s' :=
        sweep?_put_self hfound rfl
      rw [he]
      exact hput
    · rw [show (b.embark s).pauses = b.pauses from congrArg Steering.pauses he]
      exact hcut
    · rw [show (b.embark s).timer = b.timer from congrArg Steering.timer he,
        show (b.embark s).nextSweep = b.nextSweep from congrArg Steering.nextSweep he]
      exact hunset
    · rw [now_embark]
      exact hearly
    · intro w hw
      cases hw

/-- **`leads_rest_of_blocked`** — from a start that is blocked, idle turns lead to rest. -/
theorem leads_rest_of_blocked {a b : Census} {t : Turn} (ho : Orderly a.steering)
    (hsup : Supplied a.steering) (hab : a.take t = some b) (ht : t.isStart = true)
    (ha : a.armed = false) (hb : a.steering.Blocked) (htime : a.InTime) :
    b.Leads fun d => d.sweeping = false ∧ d.AllWait := by
  -- The stages: the sweep is in flight, without probes, at its end, alone, the timer asleep.
  refine (leads_waning ho hsup hab ht ha hb htime).trans ?_
  rintro c₁ ⟨s₁, w₁⟩
  refine (Waning.leads_no_probes _ w₁ rfl).trans ?_
  rintro c₂ ⟨⟨s₂, w₂⟩, hno₂⟩
  refine (w₂.leads_atEnd hno₂).trans ?_
  rintro c₃ ⟨s₃, w₃, hno₃, hend⟩
  have hids : ∀ u ∈ c₃.sweeps, u.phase.isQueued = true → u.id ∈ c₃.sweeps.map (·.id) :=
    fun u hu _ => List.mem_map_of_mem hu
  refine (Waning.leads_unqueued _ w₃ hno₃ hids).trans ?_
  rintro c₄ ⟨w₄, hno₄, hq₄⟩
  refine ((leads_asleep w₄).orderly w₄.orderly).trans ?_
  rintro c₅ ⟨⟨hasleep, n, x, he⟩, ho₅⟩
  have hsweeps : c₅.sweeps = c₄.sweeps := congrArg Steering.sweeps he
  refine leads_rest ho₅ ?_ hend ?_ ?_ (hsweeps ▸ hq₄) hasleep
  · rw [he]
    exact w₄.found
  · rw [show c₅.pauses = c₄.pauses from congrArg Steering.pauses he]
    exact w₄.cut
  · exact (congrArg Steering.probes he).trans hno₄

/-- A request that idle turns can lead to rest is not served. -/
theorem Leads.not_served {b : Census} (h : b.Leads fun d => d.sweeping = false ∧ d.AllWait) :
    ¬ b.Served := by
  obtain ⟨h, d, hrun, hidle, hs, hw⟩ := h
  intro hserved
  obtain ⟨x, hx, hx' | hx'⟩ := hserved h d hrun (fun x hx => (hidle x hx).forgoes) hs hw
  · exact (hidle x hx).serves hx'
  · exact (hidle x hx).crashes hx'

/-- **`start_served`** — when sweeping is started, the request is served unless a sweep that was
cut short stands in the way, and then it can be lost. -/
theorem start_served {c a b : Census} {t : Turn} (hc : c.IsNew) (hr : Reaches c a)
    (hab : a.take t = some b) (ht : t.isStart = true) (ha : a.armed = false) :
    (¬ a.steering.Blocked → b.Served) ∧ (a.steering.Blocked → a.InTime → ¬ b.Served) := by
  obtain ⟨ho, hsup⟩ := hr.supplied hc
  exact ⟨served_of_not_blocked ho hab ht ha,
    fun hb htime => (leads_rest_of_blocked ho hsup hab ht ha hb htime).not_served⟩

/-- A census whose timer was dropped after its sweep sweeps again when it is resumed. -/
theorem small_resume_served :
    ∃ a b, Reaches (small true) a ∧ a.pauses = 1 ∧ a.take .resume = some b ∧ b.Served := by
  have hd : ((small true).replay (smallNap ++ [.pause])).any
      (fun a => decide (a.armed = false ∧ a.pauses = 1 ∧ ¬ a.steering.Blocked)) = true := by
    decide +kernel
  obtain ⟨a, hd, hp⟩ := (Option.any_eq_true _ _).mp hd
  obtain ⟨ha, hq, hb⟩ := of_decide_eq_true hp
  have hr := (run_of_replay hd).reaches
  have ht : a.take .resume = some a.resume := rfl
  exact ⟨a, a.resume, hr, hq, ht, (start_served (small_isNew true) hr ht rfl ha).1 hb⟩

/-- **`resume_lost`** — a census that is paused while its sweep waits for the subnets, and resumed
before the sweep has noticed, can come to rest without having swept again. -/
theorem resume_lost :
    ∃ a, (small true).replay [.start, .alarm, .embark 0, .pause] = some a ∧ a.armed = false ∧
      ¬ a.resume.Served := by
  have hd : ((small true).replay [.start, .alarm, .embark 0, .pause]).any
      (fun a => decide ((a.armed = false ∧ a.steering.Blocked ∧ a.now = ⟨0, 0⟩) ∧
        ∀ s ∈ a.sweeps, s.phase = .listing)) = true := by
    decide +kernel
  obtain ⟨a, hd, hp⟩ := (Option.any_eq_true _ _).mp hd
  obtain ⟨⟨ha, hb, hnow⟩, hphase⟩ := of_decide_eq_true hp
  obtain ⟨ho, hsup⟩ := (run_of_replay hd).reaches.supplied (small_isNew true)
  have htime : a.InTime := by
    refine ⟨by rw [hnow]; decide, fun s hs w hw => ?_⟩
    cases (hphase s hs).symm.trans hw
  have ht : a.take .resume = some a.resume := rfl
  exact ⟨a, hd, ha, (leads_rest_of_blocked ho hsup ht rfl ha hb htime).not_served⟩

end Census

end LanCensus
