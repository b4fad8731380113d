/-
# LanCensus.Proofs.Census.Stranded -- armed without a timer

A census that says it is armed should have something that will wake it: a timer, or the single sweep
it was armed for. Two turns break this. A census armed for one sweep is given continuous options,
which start no timer and keep the end of the sweep from disarming it; or that sweep fails beyond
recovery and never disarms it. From then on the census is armed, and nothing will ever happen.

`honest_iff_not_stranded` says that nothing else does: at rest the flag and the timer agree exactly
if the census has not been stranded since it was last disarmed.
-/

import LanCensus.Proofs.Census.Course

namespace LanCensus

/-! ## Stranding -/

namespace Step

/-- A census that is armed for one sweep is given continuous options, or its sweep fails. -/
def strands (x : Step) : Prop :=
  x.before.armed = true ∧ x.before.timer = none ∧
    (x.crashes ∨ ∃ o, x.turn = .setOptions o ∧ o.IsValid ∧ o.continuous = true)

/-- The census is disarmed: by a pause, by options that are not continuous, or by the end of a sweep
under such options. -/
def disarms (x : Step) : Prop :=
  x.turn = .pause ∨ (∃ o, x.turn = .setOptions o ∧ o.IsValid ∧ o.continuous = false) ∨
    (x.ends ∧ x.before.options.continuous = false)

end Step

/-- The census has been stranded since it was last disarmed. -/
def Stranded (h : List Step) : Prop := Since Step.strands Step.disarms h

/-- **`Accounted σ h`** — a census that is armed without a timer is busy with a single sweep or
stranded, and a stranded one is armed without a timer. -/
structure Accounted (σ : Steering) (h : List Step) : Prop where
  explained : σ.armed = true → σ.timer = none →
    Stranded h ∨ (σ.options.continuous = false ∧ σ.IsBusy)
  lasting : Stranded h → σ.armed = true ∧ σ.timer = none

namespace Accounted

open Steering

variable {σ τ : Steering} {t : Turn} {h : List Step}

theorem not_strands_of_timer {x : Timer} (hx : σ.timer = some x) : ¬ (Step.mk σ t τ).strands := by
  rintro ⟨-, hn, -⟩
  cases hx.symm.trans hn

theorem not_strands_of_unarmed (ha : σ.armed = false) : ¬ (Step.mk σ t τ).strands := by
  rintro ⟨h, -⟩
  cases ha.symm.trans h

/-- Turns that change nothing in control disarm nothing, unless they end a sweep. -/
theorem not_disarms (hn : ¬ t.Steers σ)
    (he : (Step.mk σ t τ).ends → σ.options.continuous = true) : ¬ (Step.mk σ t τ).disarms := by
  rintro (rfl | ⟨o, rfl, ho, -⟩ | ⟨h, hc⟩)
  · exact hn trivial
  · exact hn ho
  · cases hc.symm.trans (he h)

theorem not_strands (hn : ¬ t.Steers σ) (hc : ¬ (Step.mk σ t τ).crashes) :
    ¬ (Step.mk σ t τ).strands := by
  rintro ⟨-, -, h | ⟨o, rfl, ho, -⟩⟩
  · exact hc h
  · exact hn ho

/-- The end of a sweep disarms the census, unless its options are continuous. -/
theorem conclude (a : Accounted σ h) (ho : Orderly σ) (hn : ¬ t.Steers σ) {s : Sweep}
    (hs : σ.sweep? s.id = some s) (hf : s.phase.inFlight = true) {l : List Device}
    (hl : τ.phase? s.id = some (.ended l)) (harmed : τ.armed = (σ.armed && σ.options.continuous))
    (htimer : τ.timer = σ.timer) : Accounted τ (⟨σ, t, τ⟩ :: h) where
  explained ha hx := by
    rw [harmed, Bool.and_eq_true] at ha
    rcases a.explained ha.1 (htimer ▸ hx) with hstr | ⟨hc, -⟩
    · exact .inl (.inr ⟨not_disarms hn fun _ => ha.2, hstr⟩)
    · cases hc.symm.trans ha.2
  lasting := by
    have hc : ¬ (Step.mk σ t τ).crashes := by
      rw [ho.crashes_iff hs hf hl]
      simp
    rintro (hx | ⟨hx, hstr⟩)
    · exact (not_strands hn hc hx).elim
    · obtain ⟨ha, ht⟩ := a.lasting hstr
      refine ⟨?_, htimer.trans ht⟩
      cases hcont : σ.options.continuous with
      | true => rw [harmed, ha, hcont, Bool.and_self]
      | false => exact (hx (.inr (.inr ⟨(ho.ends_iff hs hf hl).mpr ⟨l, rfl⟩, hcont⟩))).elim

theorem course (a : Accounted σ h) (ho : Orderly σ) (hc : Course σ t τ) :
    Accounted τ (⟨σ, t, τ⟩ :: h) := by
  cases hc with
  -- What is stranded is armed, and a start finds nothing armed.
  | armTimer ht ha hcont =>
      refine ⟨fun _ hx => ?_, ?_⟩
      · cases hx
      · rintro (hx | ⟨-, hstr⟩)
        · exact (not_strands_of_unarmed ha hx).elim
        · cases ha.symm.trans (a.lasting hstr).1
  | armOnce ht ha hcont =>
      refine ⟨fun _ _ => .inr ⟨hcont, .inr ⟨_, List.mem_cons_self, rfl⟩⟩, ?_⟩
      rintro (hx | ⟨-, hstr⟩)
      · exact (not_strands_of_unarmed ha hx).elim
      · cases ha.symm.trans (a.lasting hstr).1
  | pause =>
      refine ⟨fun ha _ => ?_, ?_⟩
      · cases ha
      · rintro (⟨-, -, hx | ⟨o, hx, -⟩⟩ | ⟨hx, -⟩)
        · exact absurd hx (GoesOn.not_crashes (GoesOn.of_phases fun _ => rfl))
        · cases hx
        · exact (hx (.inl rfl)).elim
  | @adopt o hv hcont =>
      refine ⟨fun ha hx => .inl (.inl ⟨ha, hx, .inr ⟨o, rfl, hv, hcont⟩⟩), ?_⟩
      rintro (⟨ha, hx, -⟩ | ⟨-, hstr⟩)
      · exact ⟨ha, hx⟩
      · exact a.lasting hstr
  | @disband o hv hcont =>
      refine ⟨fun ha _ => ?_, ?_⟩
      · cases ha
      · rintro (⟨-, -, hx | ⟨u, hx, -, hu⟩⟩ | ⟨hx, -⟩)
        · exact absurd hx (GoesOn.not_crashes (GoesOn.of_phases fun _ => rfl))
        · cases hx
          cases hcont.symm.trans hu
        · exact (hx (.inr (.inl ⟨o, rfl, hv, hcont⟩))).elim
  | halt hs hp =>
      exact a.conclude ho id hs (by rw [hp]; rfl) (phase?_conclude hs _) rfl rfl
  | @complete s l hs hp =>
      have hs' : (σ.publish s).sweep? s.id = some s := (sweep?_publish σ s s.id).trans hs
      refine a.conclude ho id hs (by rw [hp]; rfl) (phase?_conclude hs' l) ?_ ?_ <;>
        obtain ⟨n, hn⟩ := σ.publish_eq s <;> rw [hn] <;> rfl
  | fail hs hf hφ hn hag htimer =>
      have hcr : (Step.mk σ t τ).crashes := (ho.crashes_iff hs hf hφ).mpr rfl
      refine ⟨fun ha hx => .inl (.inl ⟨hag.armed ▸ ha, htimer ▸ hx, .inl hcr⟩), ?_⟩
      rw [hag.armed, htimer]
      rintro (⟨ha, hx, -⟩ | ⟨-, hstr⟩)
      · exact ⟨ha, hx⟩
      · exact a.lasting hstr
  -- A timer that has its turn is there before and after it.
  | alarm hx hy =>
      refine ⟨fun _ ht => ?_, ?_⟩
      · cases hy.symm.trans ht
      · rintro (h | ⟨-, hstr⟩)
        · exact (not_strands_of_timer hx h).elim
        · cases hx.symm.trans (a.lasting hstr).2
  | tick hx _ =>
      refine ⟨fun _ ht => ?_, ?_⟩
      · cases ht
      · rintro (h | ⟨-, hstr⟩)
        · exact (not_strands_of_timer hx h).elim
        · cases hx.symm.trans (a.lasting hstr).2
  | rest hn hag htimer hg hb =>
      have hd : ¬ (Step.mk σ t τ).disarms := not_disarms hn fun h => (hg.not_ends h).elim
      refine ⟨fun ha hx => ?_, ?_⟩
      · rcases a.explained (hag.armed ▸ ha) (htimer ▸ hx) with hstr | ⟨hcont, hbusy⟩
        · exact .inl (.inr ⟨hd, hstr⟩)
        · exact .inr ⟨hag.options ▸ hcont, hb hbusy⟩
      · rw [hag.armed, htimer]
        rintro (h | ⟨-, hstr⟩)
        · exact (not_strands hn hg.not_crashes h).elim
        · exact a.lasting hstr

theorem of_run {c d : Census} (hc : c.IsNew) (hr : Census.Run c h d) : Accounted d.steering h := by
  refine hr.carries hc (fun _ _ _ => ⟨fun ha _ => ?_, False.elim⟩) course
  cases ha

end Accounted

/-! ## Armed and alive -/

/-- After a start the census is armed. -/
theorem Moves.armed_of_isStart {σ τ : Steering} {t : Turn} (hm : Moves σ t τ)
    (ht : t.isStart = true) : τ.armed = true := by
  cases hm with
  | keepArmed _ ha => exact ha
  | armTimer => rfl
  | armOnce => rfl
  | _ => cases ht

namespace Census

/-- Both tasks of the timer are under way. -/
def IsAlive (c : Census) : Prop := ∃ t, c.timer = some t ∧ t.alarm ≠ .off ∧ t.ticking = true

/-- **`Honest c`** — the census is armed exactly while its timer is alive: it does not say that it
is armed when nothing will wake it, and a start without a timer is never ignored. -/
structure Honest (c : Census) : Prop where
  armed_iff : c.armed = true ↔ c.IsAlive
  activity : c.activity = .armed → c.IsAlive
  start : ¬ c.IsAlive → c.start ≠ c ∧ c.resume ≠ c

theorem isAlive_iff {c : Census} (ho : Orderly c.steering) : c.IsAlive ↔ c.timer ≠ none := by
  constructor
  · rintro ⟨t, ht, -⟩ hn
    cases hn.symm.trans ht
  · intro hn
    obtain ⟨t, ht⟩ := Option.ne_none_iff_exists'.mp hn
    obtain ⟨-, -, -, ha, hk⟩ := ho.timer t ht
    exact ⟨t, ht, ha, hk⟩

theorem armed_arm (c : Census) (m : String) : (c.arm m).armed = true :=
  (moves_arm (t := .start) rfl m).armed_of_isStart rfl

end Census

open Census

/-- **`honest_iff_not_stranded`** — at rest, whatever has happened before, the census is armed
exactly while its timer is alive unless it has been stranded and not been disarmed since. -/
theorem honest_iff_not_stranded {c d : Census} {h : List Step} (hc : c.IsNew) (hr : Run c h d)
    (hrest : d.AtRest) : d.Honest ↔ ¬ Stranded h := by
  have ho : Orderly d.steering := hr.orderly hc.orderly
  have a := Accounted.of_run hc hr
  constructor
  · intro hh hstr
    obtain ⟨harmed, htimer⟩ := a.lasting hstr
    exact (isAlive_iff ho).mp (hh.armed_iff.mp harmed) htimer
  · intro hstr
    have halive : d.armed = true → d.IsAlive := by
      intro harmed
      apply (isAlive_iff ho).mpr
      intro htimer
      rcases a.explained harmed htimer with h | ⟨-, hb | ⟨s, hs, hq⟩⟩
      · exact hstr h
      · cases hrest.1.symm.trans hb
      · cases (hrest.2 s hs).symm.trans hq
    have hdead : ¬ d.IsAlive → d.armed = false := fun hn =>
      Bool.eq_false_iff.mpr fun harmed => hn (halive harmed)
    refine ⟨⟨halive, ?_⟩, fun hact => ?_, fun hn => ⟨fun he => ?_, fun he => ?_⟩⟩
    · rintro ⟨t, ht, -⟩
      exact (ho.timer t ht).1
    · refine halive ?_
      unfold activity at hact
      rw [hrest.1] at hact
      cases harmed : d.armed with
      | true => rfl
      | false =>
          rw [harmed] at hact
          cases hact
    -- A start arms the census, so it is not ignored by one that is not armed.
    · cases (hdead hn).symm.trans ((congrArg armed he).symm.trans (armed_arm d _))
    · cases (hdead hn).symm.trans ((congrArg armed he).symm.trans (armed_arm d _))
/-- A timer that has asked for a sweep, which finds no subnets. -/
theorem small_honest_iff_not_stranded :
    ∃ h d, Run (small true) h d ∧ d.AtRest ∧ (d.Honest ↔ ¬ Stranded h) := by
  have hd : ((small true).replay [.start, .alarm, .embark 0, .list 0 (.ok [])]).any
      (fun d => decide d.AtRest) = true := by decide +kernel
  obtain ⟨d, hd, hrest⟩ := (Option.any_eq_true _ _).mp hd
  have hrest : d.AtRest := of_decide_eq_true hrest
  have hr := run_of_replay hd
  exact ⟨_, d, hr, hrest, honest_iff_not_stranded (small_isNew true) hr hrest⟩

/-- **`armed_without_timer`** — a census that is armed for one sweep and given continuous options
while that sweep is in flight stays armed for ever. -/
theorem armed_without_timer :
    ∃ d, (small false).replay
        [.start, .embark 0, .setOptions (smallOptions true), .list 0 (.ok [])] = some d ∧
      d.AtRest ∧ d.activity = .armed ∧ d.start = d ∧ ¬ d.Honest := by
  have hd : ((small false).replay
      [.start, .embark 0, .setOptions (smallOptions true), .list 0 (.ok [])]).any
      (fun d => decide (d.AtRest ∧ d.activity = .armed ∧ d.start = d ∧ d.timer = none)) = true := by
    decide +kernel
  obtain ⟨d, hd, hp⟩ := (Option.any_eq_true _ _).mp hd
  obtain ⟨hrest, hact, hstart, htimer⟩ := of_decide_eq_true hp
  refine ⟨d, hd, hrest, hact, hstart, fun hh => ?_⟩
  obtain ⟨t, ht, -⟩ := hh.activity hact
  cases htimer.symm.trans ht

end LanCensus
