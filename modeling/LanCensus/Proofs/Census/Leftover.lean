/-
# LanCensus.Proofs.Census.Leftover -- deadlines that outlive their census

A deadline should be published only while the census is armed. A sweep that completes decides by the
options it began with whether it publishes one, and by the options in force whether it disarms the
census. When the options were made single during the sweep and the census was started again, the two
decisions differ: the deadline is published and the census disarmed at once.

`speaksArmed_iff` says that a deadline of a census that is not armed always comes from such
an end, and that it stays until it is withdrawn. The countdown is not touched by this: it belongs to
the timer, and a timer to an armed census.
-/

import LanCensus.Proofs.Census.Countdown
import LanCensus.Proofs.Census.Course

namespace LanCensus

/-! ## Deadlines that are left over -/

namespace Step

/-- A sweep that began with continuous options completes and publishes a deadline, and under the
options in force its end disarms the census. -/
def leaves (x : Step) : Prop :=
  ∃ s, x.completes s ∧ x.before.armed = true ∧ s.options.continuous = true ∧
    x.before.options.continuous = false

/-- The deadline is withdrawn: by a pause, by options that are not continuous, or by a start that
brings a new timer. -/
def withdraws (x : Step) : Prop :=
  x.turn = .pause ∨ (∃ o, x.turn = .setOptions o ∧ o.IsValid ∧ o.continuous = false) ∨
    (x.turn.isStart = true ∧ x.before.armed = false ∧ x.before.options.continuous = true)

end Step

/-- A deadline has been left over and not been withdrawn since. -/
def Leftover (h : List Step) : Prop := Since Step.leaves Step.withdraws h

/-- **`Explained σ h`** — a deadline belongs to a census armed with continuous options or is left
over, and what is left over is a deadline. -/
structure Explained (σ : Steering) (h : List Step) : Prop where
  due : σ.nextSweep.isSome = true →
    (σ.armed = true ∧ σ.options.continuous = true) ∨ Leftover h
  lasting : Leftover h → σ.nextSweep.isSome = true

namespace Explained

open Steering

variable {σ τ : Steering} {t : Turn} {h : List Step}

/-- Only the completion of a sweep leaves a deadline over. -/
theorem not_leaves (hg : ∀ s, ¬ (Step.mk σ t τ).completes s) : ¬ (Step.mk σ t τ).leaves :=
  fun ⟨s, hs, _⟩ => hg s hs

theorem not_completes (hg : σ.GoesOn τ) (s : Sweep) : ¬ (Step.mk σ t τ).completes s :=
  fun hs => hg.not_ends hs.ends

/-- Turns that change nothing in control withdraw nothing. -/
theorem not_withdraws (hn : ¬ t.Steers σ) : ¬ (Step.mk σ t τ).withdraws := by
  rintro (rfl | ⟨o, rfl, ho, -⟩ | ⟨ht, ha, -⟩)
  · exact hn trivial
  · exact hn ho
  · cases t with
    | start => exact hn ha
    | resume => exact hn ha
    | _ => cases ht

/-- A turn that neither leaves a deadline over nor withdraws one, nor changes what is armed. -/
theorem keep (a : Explained σ h) (hc : ∀ s, ¬ (Step.mk σ t τ).completes s)
    (hw : ¬ (Step.mk σ t τ).withdraws)
    (ha : σ.armed = true ∧ σ.options.continuous = true →
      τ.armed = true ∧ τ.options.continuous = true)
    (hn : τ.nextSweep = σ.nextSweep) : Explained τ (⟨σ, t, τ⟩ :: h) where
  due hdue := by
    rcases a.due (hn ▸ hdue) with hboth | hl
    · exact .inl (ha hboth)
    · exact .inr (.inr ⟨hw, hl⟩)
  lasting := by
    rintro (hl | ⟨-, hl⟩)
    · exact (not_leaves hc hl).elim
    · exact hn ▸ a.lasting hl

/-- A withdrawn deadline is none. -/
theorem withdrawn (hc : ∀ s, ¬ (Step.mk σ t τ).completes s) (hw : (Step.mk σ t τ).withdraws)
    (hn : τ.nextSweep = none) : Explained τ (⟨σ, t, τ⟩ :: h) where
  due hdue := by
    rw [hn] at hdue
    cases hdue
  lasting := by
    rintro (hl | ⟨hl, -⟩)
    · exact (not_leaves hc hl).elim
    · exact (hl hw).elim

/-- The completion of a sweep. It publishes by the options of the sweep and disarms by those in
force. -/
theorem complete (a : Explained σ h) (ho : Orderly σ) {s : Sweep} {l : List Device}
    (hs : σ.sweep? s.id = some s) (hp : s.phase = .draining) :
    Explained ((σ.publish s).conclude s l)
      (⟨σ, .proceed s.id, (σ.publish s).conclude s l⟩ :: h) := by
  have hs' : (σ.publish s).sweep? s.id = some s := (sweep?_publish σ s s.id).trans hs
  have hcomp : (Step.mk σ (.proceed s.id) ((σ.publish s).conclude s l)).completes s :=
    ⟨hs, hp, l, phase?_conclude hs' l⟩
  have hnext : ((σ.publish s).conclude s l).nextSweep = (σ.publish s).nextSweep := rfl
  by_cases hpub : (σ.armed && s.options.continuous) = true
  · have hsome : ((σ.publish s).conclude s l).nextSweep.isSome = true := by
      rw [hnext, publish, if_pos hpub]
      rfl
    obtain ⟨ha, hcont⟩ := Bool.and_eq_true_iff.mp hpub
    refine ⟨fun _ => ?_, fun _ => hsome⟩
    -- The options in force decide whether the census stays armed.
    cases hforce : σ.options.continuous with
    | true =>
        refine .inl ?_
        rw [publish, if_pos hpub]
        exact ⟨Bool.and_eq_true_iff.mpr ⟨ha, hforce⟩, hforce⟩
    | false => exact .inr (.inl ⟨s, hcomp, ha, hcont, hforce⟩)
  · have hkeep : σ.publish s = σ := if_neg hpub
    refine ⟨fun hdue => ?_, ?_⟩
    · rw [hnext, hkeep] at hdue
      rw [hkeep]
      rcases a.due hdue with hboth | hl
      · exact .inl ⟨Bool.and_eq_true_iff.mpr hboth, hboth.2⟩
      · exact .inr (.inr ⟨not_withdraws id, hl⟩)
    · rw [hnext, hkeep]
      rintro (⟨u, hu, ha, hcont, -⟩ | ⟨-, hl⟩)
      · obtain rfl := ho.eq_of_completes hs (by rw [hp]; rfl) hu
        exact (hpub (Bool.and_eq_true_iff.mpr ⟨ha, hcont⟩)).elim
      · exact a.lasting hl

theorem course (a : Explained σ h) (ho : Orderly σ) (hc : Course σ t τ) :
    Explained τ (⟨σ, t, τ⟩ :: h) := by
  cases hc with
  | armTimer ht ha hcont =>
      exact withdrawn (not_completes (GoesOn.of_phases fun _ => rfl))
        (.inr (.inr ⟨ht, ha, hcont⟩)) rfl
  | armOnce ht ha hcont =>
      refine a.keep (not_completes (ho.goesOn_ask _)) ?_ (fun hx => ⟨rfl, hx.2⟩) rfl
      rintro (rfl | ⟨o, rfl, -⟩ | ⟨-, -, hcont'⟩)
      · cases ht
      · cases ht
      · cases hcont.symm.trans hcont'
  | pause => exact withdrawn (not_completes (GoesOn.of_phases fun _ => rfl)) (.inl rfl) rfl
  | @adopt o hv hcont =>
      refine a.keep (not_completes (GoesOn.of_phases fun _ => rfl)) ?_ (fun hx => ⟨hx.1, hcont⟩) rfl
      rintro (hx | ⟨u, hx, -, hu⟩ | ⟨hx, -⟩)
      · cases hx
      · cases hx
        cases hcont.symm.trans hu
      · cases hx
  | @disband o hv hcont =>
      exact withdrawn (not_completes (GoesOn.of_phases fun _ => rfl))
        (.inr (.inl ⟨o, rfl, hv, hcont⟩)) rfl
  | @halt s names l hs hp =>
      refine a.keep (fun u hu => ?_) (not_withdraws id) (fun hx => ⟨?_, hx.2⟩) rfl
      · obtain rfl := ho.eq_of_completes hs (by rw [hp]; rfl) hu
        cases hp.symm.trans hu.2.1
      · exact Bool.and_eq_true_iff.mpr hx
  | complete hs hp => exact a.complete ho hs hp
  | @fail _ s _ hs hf hφ hn hag htimer =>
      refine a.keep (fun u hu => ?_) (not_withdraws hn) ?_ hag.nextSweep
      · obtain rfl := ho.eq_of_completes hs hf hu
        obtain ⟨l, hl⟩ := hu.2.2
        cases hφ.symm.trans hl
      · rw [hag.armed, hag.options]
        exact id
  -- The timer may publish a deadline, and it belongs to an armed census.
  | @alarm x _ _ hx hy hopt harmed hdue _ hg =>
      obtain ⟨ha, hcont, -⟩ := ho.timer x hx
      refine ⟨fun _ => .inl ⟨harmed.trans ha, hopt ▸ hcont⟩, ?_⟩
      rintro (hl | ⟨-, hl⟩)
      · exact (not_leaves (not_completes hg) hl).elim
      · exact hdue (a.lasting hl)
  | tick hx _ =>
      exact a.keep (not_completes (GoesOn.of_phases fun _ => rfl)) (not_withdraws id) id rfl
  | rest hn hag _ hg _ =>
      refine a.keep (not_completes hg) (not_withdraws hn) ?_ hag.nextSweep
      rw [hag.armed, hag.options]
      exact id

theorem of_run {c d : Census} (hc : c.IsNew) (hr : Census.Run c h d) : Explained d.steering h := by
  refine hr.carries hc (fun _ _ _ => ⟨fun hdue => ?_, False.elim⟩) course
  cases hdue

end Explained

/-! ## Speaking while armed -/

namespace Census

/-- **`SpeaksArmed c`** — the census publishes a deadline and counts down only while it is armed. -/
structure SpeaksArmed (c : Census) : Prop where
  deadline : c.nextSweep.isSome = true → c.armed = true
  countdown : ∀ t, c.CountsDown t → c.armed = true

/-- **`speaksArmed_iff`** — whatever has happened before, the census speaks of the next sweep only
while it is armed, unless a deadline was left over and not withdrawn since. -/
theorem speaksArmed_iff {c d : Census} {h : List Step} (hc : c.IsNew) (hr : Run c h d) :
    d.SpeaksArmed ↔ (Leftover h → d.armed = true) := by
  have a := Explained.of_run hc hr
  constructor
  · intro hs hl
    exact hs.deadline (a.lasting hl)
  · intro hl
    refine ⟨fun hdue => ?_, fun t ht => armed_of_countsDown (hr.orderly hc.orderly) ht⟩
    rcases a.due hdue with ⟨harmed, -⟩ | hleft
    · exact harmed
    · exact hl hleft

/-- A deadline of a census with a timer. -/
theorem small_speaksArmed_iff :
    ∃ h d, Run (small true) h d ∧ d.AtRest ∧ d.nextSweep.isSome = true ∧
      (d.SpeaksArmed ↔ (Leftover h → d.armed = true)) := by
  have hd : ((small true).replay ([.start, .alarm, .embark 0] ++ smallSweep 0 1)).any
      (fun d => decide (d.AtRest ∧ d.nextSweep.isSome = true)) = true := by decide +kernel
  obtain ⟨d, hd, hp⟩ := (Option.any_eq_true _ _).mp hd
  obtain ⟨hrest, hdue⟩ := of_decide_eq_true hp
  have hr := run_of_replay hd
  exact ⟨_, d, hr, hrest, hdue, speaksArmed_iff (small_isNew true) hr⟩

/-- **`deadline_left_over`** — a census whose options become single during a sweep, and which is
started again before the sweep ends, publishes a deadline and is not armed. -/
theorem deadline_left_over :
    ∃ d, (small true).replay
        ([.start, .alarm, .embark 0, .setOptions (smallOptions false), .start, .embark 1] ++
          smallSweep 0 2) = some d ∧
      d.AtRest ∧ ¬ d.SpeaksArmed := by
  have hd : ((small true).replay
      ([.start, .alarm, .embark 0, .setOptions (smallOptions false), .start, .embark 1] ++
        smallSweep 0 2)).any
      (fun d => decide (d.AtRest ∧ d.nextSweep.isSome = true ∧ d.armed = false)) = true := by
    decide +kernel
  obtain ⟨d, hd, hp⟩ := (Option.any_eq_true _ _).mp hd
  obtain ⟨hrest, hdue, harmed⟩ := of_decide_eq_true hp
  refine ⟨d, hd, hrest, fun hs => ?_⟩
  cases harmed.symm.trans (hs.deadline hdue)

end Census

end LanCensus
