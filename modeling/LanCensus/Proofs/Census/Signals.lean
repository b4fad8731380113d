/-
# LanCensus.Proofs.Census.Signals -- one sweep at a time, and what is announced of it

Calls, timers and starts ask for sweeps as they like, and a flag decides which of them sweeps. The flag
goes up when a sweep begins and comes down when it ends, for whatever reason it ends; each time the
census announces it. `Beat` says what one turn does to the flag and to the announcements together. From
it `one_sweep_at_a_time` follows for every story: the announcements alternate, and the last one says how
the flag stands, exactly if no sweep has failed beyond recovery.

A sweep that finds the flag up is turned away. It is over with its first turn, which changes nothing but
the answer that its caller is given, and it never has another (`IsTurnedAway`).
-/

import LanCensus.Proofs.Census.PauseSafety
import Mathlib.Data.List.Chain

namespace LanCensus

open Steering

/-! ## A channel that tells the truth -/

/-- **`Truthful b bs`** — the announcements `bs`, the latest in front, alternate from `true` on, and the
last one is `true` exactly if `b`. -/
structure Truthful (b : Bool) (bs : List Bool) : Prop where
  alternate : bs.IsChain (· ≠ ·)
  begins : bs.getLast? ≠ some false
  last : b = true ↔ bs.head? = some true

/-- An announcement is in order if it contradicts the one before. -/
theorem truthful_cons {b : Bool} {bs : List Bool} :
    Truthful b (b :: bs) ↔ Truthful (!b) bs := by
  cases bs with
  | nil =>
      constructor
      · rintro ⟨-, hbegins, -⟩
        exact ⟨.nil, by simp, by simpa using hbegins⟩
      · rintro ⟨-, -, hlast⟩
        exact ⟨.singleton b, by simpa using hlast, by simp⟩
  | cons a bs =>
      constructor
      · rintro ⟨halternate, hbegins, -⟩
        rw [List.isChain_cons_cons] at halternate
        refine ⟨halternate.2, by simpa using hbegins, ?_⟩
        have hne := halternate.1
        cases a <;> cases b <;> simp_all
      · rintro ⟨halternate, hbegins, hlast⟩
        refine ⟨List.isChain_cons_cons.mpr ⟨?_, halternate⟩, by simpa using hbegins, by simp⟩
        cases a <;> cases b <;> simp_all

/-! ## What a turn does to the flag and to the announcements -/

/-- **`Beat c t τ R`** — the turn `t` of the census `c` leaves the flag and the announcements as they
are, or changes the one and announces it, or a sweep fails with it and nobody is told. -/
inductive Beat (c : Census) (t : Turn) (τ : Steering) (R : Records) : Prop
  | same : τ.sweeping = c.sweeping → R.signals = c.records.signals →
      ¬ (Step.mk c.steering t τ).crashes → Beat c t τ R
  | told {b : Bool} : c.sweeping = !b → τ.sweeping = b → R.signals = b :: c.records.signals →
      ¬ (Step.mk c.steering t τ).crashes → Beat c t τ R
  | lost : c.sweeping = true → τ.sweeping = false → R.signals = c.records.signals →
      (Step.mk c.steering t τ).crashes → Beat c t τ R

/-- Whether a turn may announce the beginning or the end of a sweep. -/
def Turn.signals : Turn → Bool
  | .embark _ | .list .. | .proceed _ => true
  | _ => false

theorem Turn.signals_of_isStart {t : Turn} (h : t.isStart = true) : t.signals = false := by
  cases t with
  | start | resume => rfl
  | _ => cases h

section

variable {c : Census} {t : Turn} {τ υ : Steering} {R : Records} {s s' : Sweep}

theorem Writes.signals_eq (hw : Writes c t R) (ht : t.signals = false) :
    R.signals = c.records.signals := by
  cases hw with
  | nothing | removeUnknown | missUnknown | fail | remove | miss | meet => rfl
  | _ => cases ht

/-- A turn that leaves the flag and the phases alone, and announces nothing. -/
theorem Writes.beat (hw : Writes c t R) (ht : t.signals = false)
    (hb : τ.sweeping = c.sweeping) (hg : c.steering.GoesOn τ) : Beat c t τ R :=
  .same hb (hw.signals_eq ht) hg.not_crashes

/-- A sweep gives its place to itself, and is still in flight if it was. -/
theorem Steering.GoesOn.of_put {σ υ : Steering} (hυ : υ.sweeps = σ.sweeps) {s s' : Sweep}
    (hs : σ.sweep? s.id = some s) (hid : s'.id = s.id)
    (hf : s.phase.inFlight = true → s'.phase.inFlight = true) : σ.GoesOn (υ.put s') := by
  have hp : ∀ id, (υ.put s').phase? id = (σ.put s').phase? id := by
    intro id
    rw [phase?, phase?, sweep?, sweep?, Steering.put, Steering.put, hυ]
  intro id φ hid' hφ
  rw [hp]
  exact GoesOn.put hs hid hf id φ hid' hφ

/-- A sweep goes on, and nothing is announced. -/
theorem Beat.of_put (hυ : υ.sweeps = c.steering.sweeps) (hb : υ.sweeping = c.sweeping)
    (hs : c.steering.sweep? s.id = some s) (hid : s'.id = s.id)
    (hf : s.phase.inFlight = true → s'.phase.inFlight = true)
    (hR : R.signals = c.records.signals) : Beat c t (υ.put s') R :=
  .same hb hR (GoesOn.of_put hυ hs hid hf).not_crashes

/-- A sweep in flight ends. -/
theorem Orderly.beat_conclude (ho : Orderly c.steering) (hυ : υ.sweeps = c.steering.sweeps)
    (hs : c.steering.sweep? s.id = some s) (hf : s.phase.inFlight = true) (l : List Device)
    (hR : R.signals = false :: c.records.signals) : Beat c t (υ.conclude s l) R := by
  refine .told (b := false) (ho.sweeps.busy_of s (mem_of_sweep? hs) hf) rfl hR ?_
  have hs' : υ.sweep? s.id = some s := by
    rw [sweep?, hυ]
    exact hs
  rw [ho.crashes_iff hs hf (phase?_conclude hs' l)]
  rintro ⟨⟩

/-- A sweep in flight fails. -/
theorem Orderly.beat_fail (ho : Orderly c.steering) (hυ : υ.sweeps = c.steering.sweeps)
    (hs : c.steering.sweep? s.id = some s) (hid : s'.id = s.id) (hf : s.phase.inFlight = true)
    (hR : R.signals = c.records.signals) : Beat c t (υ.fail s') R :=
  .lost (ho.sweeps.busy_of s (mem_of_sweep? hs) hf) rfl hR
    ((ho.crashes_iff hs hf (phase?_fail hυ hs hid)).mpr rfl)

/-- **`Moves.beat`** — every turn is of one of the kinds of `Beat`. -/
theorem Moves.beat (ho : Orderly c.steering) (hsupp : Supplied c.steering)
    (hm : Moves c.steering t τ) (hw : Writes c t R) : Beat c t τ R := by
  cases hm with
  | keepArmed ht | armTimer ht =>
      exact hw.beat (Turn.signals_of_isStart ht) rfl (GoesOn.of_phases fun _ => rfl)
  | armOnce ht => exact hw.beat (Turn.signals_of_isStart ht) rfl (ho.goesOn_ask _)
  | pause | refuse | adopt | disband | remove | lookUp | endLookup | ping | alarmOff | alarmSet
  | alarmRing | tickOff | tick | pass => exact hw.beat rfl rfl (GoesOn.of_phases fun _ => rfl)
  | alarmBusy | alarmFollow =>
      obtain ⟨n, hn⟩ := c.steering.planAhead_eq
      rw [hn]
      exact hw.beat rfl rfl (GoesOn.of_phases fun _ => rfl)
  | request | alarmAsk => exact hw.beat rfl rfl (ho.goesOn_ask _)
  | endProbe => exact hw.beat rfl rfl (GoesOn.of_phases (phase?_release _ _ _))
  | turnAway hs hp hb =>
      refine Beat.of_put rfl rfl hs rfl (fun hf => ?_) ?_
      · rw [hp] at hf
        cases hf
      · cases hw with
        | nothing h => cases h
        | turnAway => rfl
        | embark h => cases h.symm.trans hb
  | @embark s p hs hp hb =>
      cases hw with
      | nothing h => cases h
      | turnAway h => cases h.symm.trans hb
      | embark =>
          refine .told (b := true) hb rfl rfl (GoesOn.not_crashes ?_)
          exact GoesOn.of_put (υ := { c.steering with sweeping := true }) rfl hs rfl fun _ => rfl
  | abort hs hp hno =>
      rw [hw.eq_of_halt hs (.inl hno)]
      exact ho.beat_conclude rfl hs (by rw [hp]; rfl) _ rfl
  | callOff hs hp _ hq =>
      rw [hw.eq_of_halt hs (.inr hq)]
      exact ho.beat_conclude rfl hs (by rw [hp]; rfl) _ rfl
  | overload hs hp hn hq _ =>
      rw [hw.eq_of_setOut hs hn hq]
      exact ho.beat_fail rfl hs rfl (by rw [hp]; rfl) rfl
  | setOut hs _ hn hq _ =>
      rw [hw.eq_of_setOut hs hn hq]
      exact Beat.of_put rfl rfl hs rfl (fun _ => rfl) rfl
  | collapse hs hp => exact ho.beat_fail rfl hs rfl (by rw [hp]; rfl) (hw.signals_eq rfl)
  | await hs hp _ _ hz =>
      rw [hw.eq_of_hold hs (by simp [hp]) fun _ => .inr (.inr hz)]
      exact Beat.of_put rfl rfl hs rfl (fun _ => rfl) rfl
  | @stop s hs hp hor =>
      have hnot : s.phase ≠ .draining := by rcases hp with hp | hp <;> simp [hp]
      rw [hw.eq_of_hold hs hnot fun _ => hor.imp_right .inl]
      exact Beat.of_put rfl rfl hs rfl (fun _ => rfl) rfl
  | @dispatch s x _ φ hs hp hx hq hpos hφ =>
      rw [hw.eq_of_dispatch hs hp (by simp [hx]) hq hpos]
      have hf : φ.inFlight = true := by rcases hφ with rfl | ⟨w, rfl⟩ <;> rfl
      exact Beat.of_put (υ := c.steering.launch s x) rfl rfl hs rfl (fun _ => hf) rfl
  | stumble hs hp _ hb =>
      have hf := Sweep.inFlight_of_ready hp
      exact absurd hb (hsupp.options _ (mem_of_sweep? hs) hf).bounds.2.1
  | wake hs hp =>
      rw [hw.eq_of_hold hs (by simp [hp]) fun hor => by simp [hp] at hor]
      exact Beat.of_put rfl rfl hs rfl (fun _ => rfl) rfl
  | complete hs hp _ =>
      obtain ⟨n, hn⟩ := c.steering.publish_eq _
      rw [hn, hw.eq_of_complete hs hp]
      exact ho.beat_conclude (υ := { c.steering with nextSweep := n }) rfl hs (by rw [hp]; rfl) _ rfl

end

/-! ## Sweeps that are over -/

section

variable {σ τ : Steering} {t : Turn} {id : Nat} {φ : Sweep.Phase}

/-- A sweep whose phase is not the one of `id` gives its place to itself. -/
theorem Steering.phase?_put_of_ne {υ : Steering} (hυ : υ.sweeps = σ.sweeps) {s s' : Sweep}
    (hs : σ.sweep? s.id = some s) (hid : s'.id = s.id) (hne : s.phase ≠ φ)
    (hp : σ.phase? id = some φ) : (υ.put s').phase? id = some φ := by
  have hid' : id ≠ s'.id := by
    rw [hid]
    rintro rfl
    rw [phase?_of_sweep? hs] at hp
    exact hne (Option.some.inj hp)
  rw [phase?, sweep?_put_of_ne hid', sweep?, hυ]
  exact hp

/-- **`Moves.phase?_eq_of_isOver`** — a sweep that is over stays as it is. -/
theorem Moves.phase?_eq_of_isOver (hm : Moves σ t τ) (ho : Orderly σ) (hp : σ.phase? id = some φ)
    (hover : φ.isOver = true) : τ.phase? id = some φ := by
  have hne : ∀ {ψ : Sweep.Phase}, ψ.isOver = false → ψ ≠ φ := by
    rintro ψ hψ rfl
    cases hψ.symm.trans hover
  have hask : ∀ {υ : Steering} (p : Option Nat), υ.sweeps = σ.sweeps → υ.fresh = σ.fresh →
      (υ.ask p).phase? id = some φ := by
    intro υ p hsweeps hfresh
    obtain ⟨s, hs, rfl, -⟩ := mem_of_phase? hp
    have hlt := ho.sweeps.below s hs
    rw [phase?, sweep?_ask_of_ne (hfresh ▸ Nat.ne_of_lt hlt), sweep?, hsweeps]
    exact hp
  cases hm with
  | keepArmed | armTimer | pause | refuse | adopt | disband | remove | lookUp | endLookup | ping
  | alarmOff | alarmSet | alarmRing | tickOff | tick | pass => exact hp
  | alarmBusy | alarmFollow =>
      obtain ⟨n, hn⟩ := σ.planAhead_eq
      rw [hn]
      exact hp
  | armOnce | request | alarmAsk => exact hask _ rfl rfl
  | turnAway hs hq | embark hs hq | abort hs hq | callOff hs hq | overload hs hq | setOut hs hq
  | collapse hs hq | await hs hq | wake hs hq =>
      exact phase?_put_of_ne rfl hs rfl (hne (by rw [hq]; rfl)) hp
  | stop hs hq | dispatch hs hq | stumble hs hq =>
      exact phase?_put_of_ne rfl hs rfl
        (hne (Sweep.Phase.not_isOver_of_inFlight (Sweep.inFlight_of_ready hq))) hp
  | complete hs hq =>
      obtain ⟨n, hn⟩ := σ.publish_eq _
      rw [hn]
      exact phase?_put_of_ne rfl hs rfl (hne (by rw [hq]; rfl)) hp
  | endProbe => rwa [phase?_release]

end

namespace Census

variable {c d e : Census} {id : Nat} {φ : Sweep.Phase}

/-- A sweep that is over does not have its turn, and neither has a probe of it. -/
theorem not_isOf_of_isOver {t : Turn} (hreg : c.IsRegular) (ht : c.take t = some e)
    (hp : c.steering.phase? id = some φ) (hover : φ.isOver = true) : ¬ Deed.isOf id ⟨c, t, e⟩ := by
  have hthis : ∀ {s : Sweep}, c.steering.sweep? s.id = some s → s.phase.isOver = false →
      s.id ≠ id := by
    rintro s hs hn rfl
    rw [phase?_of_sweep? hs] at hp
    cases hp
    cases hn.symm.trans hover
  have hprobe : ∀ p ∈ c.probes, p.sweep ≠ id := by
    rintro p hmem rfl
    obtain ⟨ψ, hψ, hf⟩ := hreg.inFlight_of_mem hmem
    cases hψ.symm.trans hp
    cases (Sweep.Phase.not_isOver_of_inFlight hf).symm.trans hover
  have hm := take_moves ht
  generalize e.steering = τ at hm
  cases hm with
  | turnAway hs hq | embark hs hq | abort hs hq | callOff hs hq | overload hs hq | setOut hs hq
  | collapse hs hq | await hs hq | wake hs hq | complete hs hq => exact hthis hs (by rw [hq]; rfl)
  | stop hs hq | dispatch hs hq | stumble hs hq =>
      exact hthis hs (Sweep.Phase.not_isOver_of_inFlight (Sweep.inFlight_of_ready hq))
  | ping | endProbe =>
      rintro ⟨p, hmem, -, hsweep⟩
      exact hprobe p hmem hsweep
  | keepArmed h | armTimer h | armOnce h =>
      cases t with
      | start | resume => exact False.elim
      | _ => cases h
  | _ => exact False.elim

theorem Story.over {h : List Deed} (hst : Story c h d) (hreg : c.IsRegular)
    (hp : c.steering.phase? id = some φ) (hover : φ.isOver = true) :
    d.steering.phase? id = some φ ∧ ∀ x ∈ h, ¬ x.isOf id := by
  induction hst with
  | start => exact ⟨hp, fun x hx => by cases hx⟩
  | turn hst ht ih =>
      have hreg' := hreg.reaches hst.run.reaches
      refine ⟨(take_moves ht).phase?_eq_of_isOver hreg'.orderly ih.1 hover, ?_⟩
      exact List.forall_mem_cons.mpr ⟨not_isOf_of_isOver hreg' ht ih.1 hover, ih.2⟩

/-! ## Any number of sweeps -/

/-- **`IsTurnedAway id d e`** — the turn from `d` to `e` gives the sweep the inventory as it is for an
answer and changes nothing else, and neither the sweep nor a probe of it has another turn. -/
structure IsTurnedAway (id : Nat) (d e : Census) : Prop where
  answers : ∃ s, d.sweep? id = some s ∧
    e = d.putSweep { s with phase := .ended d.inventory.toList }
  ended : ∀ {k f}, Story e k f →
    f.steering.phase? id = some (.ended d.inventory.toList) ∧ ∀ x ∈ k, ¬ x.isOf id

theorem isTurnedAway_of_embark (hreg : d.IsRegular) (hbusy : d.sweeping = true)
    (ht : d.take (.embark id) = some e) : IsTurnedAway id d e := by
  have hreg' := hreg.take ht
  have hphase := (turnedAway_of_embark hbusy ht).1
  cases hs : d.sweep? id with
  | none => simp [take, hs] at ht
  | some s =>
      obtain rfl := id_of_sweep? (σ := d.steering) hs
      simp only [take, hs, Option.bind_eq_bind, Option.bind_some] at ht
      split at ht
      · next p hp =>
        have he : d.putSweep { s with phase := .ended d.inventory.toList } = e := by
          simpa [embark, hp, hbusy] using ht
        exact ⟨⟨s, hs, he.symm⟩, fun hst => hst.over hreg' hphase rfl⟩
      · cases ht

/-- Whenever the flag is up the last announcement is that a sweep begins. All else that the channel
should say is said exactly as long as no sweep has failed. -/
theorem Story.truthful {h : List Deed} (hst : Story c h d) (hc : c.IsNew) :
    (d.sweeping = true → d.records.signals.head? = some true) ∧
      ((∀ x ∈ h, ¬ x.step.crashes) ↔ Truthful d.sweeping d.records.signals) := by
  induction hst with
  | start =>
      obtain ⟨now, o, r, rfl, -⟩ := hc.eq_initial
      exact ⟨fun h => absurd h Bool.false_ne_true, iff_of_true (fun x hx => by cases hx) ⟨.nil, by simp [records, initial], by
        simp [records, initial]⟩⟩
  | @turn h d e t hst ht ih =>
      have hreg := (IsRegular.of_isNew hc).reaches hst.run.reaches
      rw [List.forall_mem_cons, ih.2]
      cases (take_moves ht).beat hreg.orderly hreg.supplied (take_writes ht) with
      | same hb hR hcrash =>
          have hb' : e.sweeping = d.sweeping := hb
          rw [hb', hR]
          exact ⟨ih.1, and_iff_right hcrash⟩
      | @told b hb hb' hR hcrash =>
          have hb' : e.sweeping = b := hb'
          rw [hb', hR, hb, truthful_cons]
          exact ⟨fun h => congrArg some h, and_iff_right hcrash⟩
      | lost hb hb' hR hcrash =>
          -- The last announcement is that the sweep begins.
          have hb' : e.sweeping = false := hb'
          rw [hb', hR]
          refine ⟨fun h => absurd h Bool.false_ne_true, iff_of_false (fun h => h.1 hcrash) fun h => ?_⟩
          cases h.last.mpr (ih.1 hb)

/-- **`one_sweep_at_a_time`** — whoever asks for sweeps and whenever, at most one is in flight, and the
flag is up exactly while one is. The beginnings and ends that were announced alternate and agree with the
flag exactly if no sweep has failed beyond recovery. A sweep that finds the flag up is turned away. -/
theorem one_sweep_at_a_time {h : List Deed} (hc : c.IsNew) (hst : Story c h d) :
    (∀ s ∈ d.sweeps, ∀ u ∈ d.sweeps, s.phase.inFlight = true → u.phase.inFlight = true → s = u) ∧
      (d.sweeping = true ↔ ∃ s ∈ d.sweeps, s.phase.inFlight = true) ∧
      ((∀ x ∈ h, ¬ x.step.crashes) ↔ Truthful d.sweeping d.records.signals) ∧
      ∀ id e, d.sweeping = true → d.take (.embark id) = some e → IsTurnedAway id d e := by
  have hreg := (IsRegular.of_isNew hc).reaches hst.run.reaches
  have horder := hreg.orderly.sweeps
  refine ⟨horder.alone, ⟨horder.exists_of, ?_⟩, (hst.truthful hc).2, ?_⟩
  · rintro ⟨s, hs, hf⟩
    exact horder.busy_of s hs hf
  · intro id e hbusy ht
    exact isTurnedAway_of_embark hreg hbusy ht

/-- A second sweep begins while the first one waits for its probe. -/
theorem second_turned_away :
    let turns := [.requestSweep, .requestSweep, .embark 0] ++ (smallSweep 0 2).take 3
    ∃ d e, (small false).IsNew ∧ Story (small false) ((small false).chronicle turns) d ∧
      d.sweeping = true ∧ d.probes ≠ [] ∧ d.take (.embark 1) = some e ∧
      Truthful true d.records.signals ∧ d.records.signals = [true] ∧ IsTurnedAway 1 d e := by
  intro turns
  have hcheck : ((small false).replay turns).any (fun d => (d.take (.embark 1)).any fun _ =>
      decide (d.sweeping = true ∧ d.probes ≠ [] ∧ d.records.signals = [true])) = true := by
    decide +kernel
  obtain ⟨d, hd, hcheck⟩ := (Option.any_eq_true _ _).mp hcheck
  obtain ⟨e, he, hp⟩ := (Option.any_eq_true _ _).mp hcheck
  obtain ⟨hbusy, hprobes, hsignals⟩ := of_decide_eq_true hp
  have hst := story_of_replay hd
  have haway := (one_sweep_at_a_time (small_isNew false) hst).2.2.2 1 e hbusy he
  refine ⟨d, e, small_isNew false, hst, hbusy, hprobes, he, ?_, hsignals, haway⟩
  rw [hsignals]
  exact truthful_cons.mpr ⟨.nil, by simp, by simp⟩

end Census

end LanCensus
