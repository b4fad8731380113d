/-
# LanCensus.Proofs.Census.Oversleep -- the timer and its deadline

The alarm of a timer is set to the deadline that is known when it is set. A sweep that was asked for
by hand, or in another interval, moves the deadline when it completes. Moved later, the timer wakes
too early and sets its alarm anew; moved earlier, it goes on sleeping and wakes too late.

`punctual_iff` says that this, and having no timer at all, are the only ways in which an armed
census with continuous options can miss the deadline that it has published.
-/

import LanCensus.Proofs.Census.Stranded
import LanCensus.Proofs.Census.Turns

namespace LanCensus

/-! ## Deadlines that move -/

/-- The instant until which the timer sleeps. -/
def Timer.wake? (t : Timer) : Option Instant :=
  match t.alarm with
  | .set w => some w
  | _ => none

/-- The instant until which the timer sleeps, if there is one. -/
def Steering.wake? (σ : Steering) : Option Instant := σ.timer.bind Timer.wake?

namespace Step

/-- A sweep completes and publishes the deadline `n`. -/
def publishes (x : Step) (n : Instant) : Prop :=
  ∃ s, x.completes s ∧ x.before.armed = true ∧ s.options.continuous = true ∧
    n = dueAfter x.before.now s.options.interval

/-- A sweep publishes a deadline before the instant until which the timer sleeps. -/
def overtakes (x : Step) : Prop := ∃ n w, x.publishes n ∧ x.before.wake? = some w ∧ n < w

/-- Another deadline is published, the timer has its turn, or it is dropped. -/
def renews (x : Step) : Prop :=
  (∃ n, x.publishes n) ∨ x.turn = .alarm ∨ x.turn = .pause ∨
    ∃ o, x.turn = .setOptions o ∧ o.IsValid ∧ o.continuous = false

end Step

/-- The deadline has been moved before the instant until which the timer sleeps, and the timer
sleeps on. -/
def Overslept (h : List Step) : Prop := Since Step.overtakes Step.renews h

/-- **`Watched σ h`** — a sleeping timer wakes by the deadline unless it was overslept, and then it
wakes after it. -/
structure Watched (σ : Steering) (h : List Step) : Prop where
  timely : ∀ w, σ.wake? = some w → ∃ n, σ.nextSweep = some n ∧ (w ≤ n ∨ Overslept h)
  lasting : Overslept h → ∃ w n, σ.wake? = some w ∧ σ.nextSweep = some n ∧ n < w

namespace Watched

open Steering

variable {σ τ : Steering} {t : Turn} {h : List Step}

theorem not_publishes (hc : ∀ s, ¬ (Step.mk σ t τ).completes s) (n : Instant) :
    ¬ (Step.mk σ t τ).publishes n :=
  fun ⟨s, hs, _⟩ => hc s hs

theorem not_overtakes (hc : ∀ n, ¬ (Step.mk σ t τ).publishes n) : ¬ (Step.mk σ t τ).overtakes :=
  fun ⟨n, _, hn, _⟩ => hc n hn

theorem not_renews (hp : ∀ n, ¬ (Step.mk σ t τ).publishes n) (hn : ¬ t.Steers σ) :
    ¬ (Step.mk σ t τ).renews := by
  rintro (⟨n, hx⟩ | rfl | rfl | ⟨o, rfl, ho, -⟩)
  · exact hp n hx
  · exact hn trivial
  · exact hn trivial
  · exact hn ho

/-- A turn that leaves the deadline and the alarm as they are. -/
theorem keep (a : Watched σ h) (hp : ∀ n, ¬ (Step.mk σ t τ).publishes n)
    (hr : ¬ (Step.mk σ t τ).renews) (hw : τ.wake? = σ.wake?) (hn : τ.nextSweep = σ.nextSweep) :
    Watched τ (⟨σ, t, τ⟩ :: h) where
  timely w hwake := by
    obtain ⟨n, hdue, hor⟩ := a.timely w (hw ▸ hwake)
    exact ⟨n, hn ▸ hdue, hor.imp_right fun hl => .inr ⟨hr, hl⟩⟩
  lasting := by
    rw [hw, hn]
    rintro (hx | ⟨-, hl⟩)
    · exact (not_overtakes hp hx).elim
    · exact a.lasting hl

/-- A turn after which no timer sleeps, and before which none did or which wakes or drops it. -/
theorem awake (a : Watched σ h) (hp : ∀ n, ¬ (Step.mk σ t τ).publishes n)
    (hr : (Step.mk σ t τ).renews ∨ σ.wake? = none) (hw : τ.wake? = none) :
    Watched τ (⟨σ, t, τ⟩ :: h) where
  timely w hwake := by cases hw.symm.trans hwake
  lasting := by
    rintro (hx | ⟨hx, hl⟩)
    · exact (not_overtakes hp hx).elim
    · rcases hr with hr | hnone
      · exact (hx hr).elim
      · obtain ⟨w, n, hwake, -⟩ := a.lasting hl
        cases hnone.symm.trans hwake

theorem wake?_of_set {x : Timer} {w : Instant} (hx : σ.timer = some x) (ha : x.alarm = .set w) :
    σ.wake? = some w := by
  rw [wake?, hx, Option.bind_some, Timer.wake?, ha]

theorem wake?_of_unarmed (ho : Orderly σ) (ha : σ.armed = false) : σ.wake? = none := by
  cases hx : σ.timer with
  | none => rw [wake?, hx, Option.bind_none]
  | some x => cases ha.symm.trans (ho.timer x hx).1

/-- The completion of a sweep: it may publish a deadline before or after the timer wakes. -/
theorem complete (a : Watched σ h) (ho : Orderly σ) {s : Sweep} {l : List Device}
    (hs : σ.sweep? s.id = some s) (hp : s.phase = .draining) :
    Watched ((σ.publish s).conclude s l)
      (⟨σ, .proceed s.id, (σ.publish s).conclude s l⟩ :: h) := by
  have hs' : (σ.publish s).sweep? s.id = some s := (sweep?_publish σ s s.id).trans hs
  have hcomp : (Step.mk σ (.proceed s.id) ((σ.publish s).conclude s l)).completes s :=
    ⟨hs, hp, l, phase?_conclude hs' l⟩
  have hwake : ((σ.publish s).conclude s l).wake? = σ.wake? := by
    obtain ⟨n, hn⟩ := σ.publish_eq s
    rw [hn]
    rfl
  by_cases hpub : (σ.armed && s.options.continuous) = true
  · obtain ⟨ha, hcont⟩ := Bool.and_eq_true_iff.mp hpub
    have hx : (Step.mk σ (.proceed s.id) ((σ.publish s).conclude s l)).publishes
        (dueAfter σ.now s.options.interval) := ⟨s, hcomp, ha, hcont, rfl⟩
    have hdue : ((σ.publish s).conclude s l).nextSweep =
        some (dueAfter σ.now s.options.interval) := by
      show (σ.publish s).nextSweep = _
      rw [publish, if_pos hpub]
    refine ⟨fun w hw => ⟨_, hdue, ?_⟩, ?_⟩
    · by_cases hlt : dueAfter σ.now s.options.interval < w
      · exact .inr (.inl ⟨_, w, hx, hwake ▸ hw, hlt⟩)
      · exact .inl (Instant.not_lt.mp hlt)
    · rintro (⟨n, w, ⟨u, hu, -, -, rfl⟩, hw, hlt⟩ | ⟨hr, -⟩)
      · obtain rfl := ho.eq_of_completes hs (by rw [hp]; rfl) hu
        exact ⟨w, _, hwake.trans hw, hdue, hlt⟩
      · exact (hr (.inl ⟨_, hx⟩)).elim
  · have hnp : ∀ n, ¬ (Step.mk σ (.proceed s.id) ((σ.publish s).conclude s l)).publishes n := by
      rintro n ⟨u, hu, ha, hcont, -⟩
      obtain rfl := ho.eq_of_completes hs (by rw [hp]; rfl) hu
      exact hpub (Bool.and_eq_true_iff.mpr ⟨ha, hcont⟩)
    refine a.keep hnp (not_renews hnp id) hwake ?_
    show (σ.publish s).nextSweep = _
    rw [publish, if_neg hpub]

theorem course (a : Watched σ h) (ho : Orderly σ) (hc : Course σ t τ) :
    Watched τ (⟨σ, t, τ⟩ :: h) := by
  have hgo : ∀ {t τ}, σ.GoesOn τ → ∀ n, ¬ (Step.mk σ t τ).publishes n := fun hg =>
    not_publishes fun s hs => hg.not_ends hs.ends
  cases hc with
  -- Before a start nothing is armed, so no timer sleeps.
  | armTimer ht ha hcont =>
      exact a.awake (hgo (GoesOn.of_phases fun _ => rfl)) (.inr (wake?_of_unarmed ho ha)) rfl
  | armOnce ht ha hcont =>
      have hnone := wake?_of_unarmed ho ha
      exact a.awake (hgo (ho.goesOn_ask _)) (.inr hnone) hnone
  | pause => exact a.awake (hgo (GoesOn.of_phases fun _ => rfl)) (.inl (.inr (.inr (.inl rfl)))) rfl
  | @adopt o hv hcont =>
      refine a.keep (hgo (GoesOn.of_phases fun _ => rfl)) ?_ rfl rfl
      rintro (⟨n, hx⟩ | hx | hx | ⟨u, hx, -, hu⟩)
      · exact hgo (t := .setOptions o) (GoesOn.of_phases fun _ => rfl) n hx
      · cases hx
      · cases hx
      · cases hx
        cases hcont.symm.trans hu
  | @disband o hv hcont =>
      exact a.awake (hgo (GoesOn.of_phases fun _ => rfl))
        (.inl (.inr (.inr (.inr ⟨o, rfl, hv, hcont⟩)))) rfl
  | @halt s names l hs hp =>
      have hnp : ∀ n, ¬ (Step.mk σ (.list s.id names) (σ.conclude s l)).publishes n := by
        apply not_publishes
        intro u hu
        obtain rfl := ho.eq_of_completes hs (by rw [hp]; rfl) hu
        cases hp.symm.trans hu.2.1
      exact a.keep hnp (not_renews hnp id) rfl rfl
  | complete hs hp => exact a.complete ho hs hp
  | @fail _ s _ hs hf hφ hn hag htimer =>
      have hnp : ∀ n, ¬ (Step.mk σ t τ).publishes n := by
        apply not_publishes
        intro u hu
        obtain rfl := ho.eq_of_completes hs hf hu
        obtain ⟨l, hl⟩ := hu.2.2
        cases hφ.symm.trans hl
      exact a.keep hnp (not_renews hnp hn) (by rw [wake?, htimer]; rfl) hag.nextSweep
  -- A timer that goes to sleep sets its alarm to the deadline itself.
  | @alarm x y _ hx hy hopt harmed _ hset hg =>
      refine ⟨fun w hw => ?_, ?_⟩
      · rw [wake?, hy, Option.bind_some] at hw
        have halarm : y.alarm = .set w := by
          unfold Timer.wake? at hw
          split at hw
          · next u hu =>
            cases hw
            exact hu
          · cases hw
        exact ⟨w, hset w halarm, .inl (Instant.le_refl w)⟩
      · rintro (hl | ⟨hr, -⟩)
        · exact (not_overtakes (hgo hg) hl).elim
        · exact (hr (.inr (.inl rfl))).elim
  | @tick x y hx hy =>
      have hnp := hgo (t := .tick) (τ := { σ with timer := some y }) (GoesOn.of_phases fun _ => rfl)
      refine a.keep hnp (not_renews hnp id) ?_ rfl
      rw [wake?, wake?, hx, Option.bind_some, Option.bind_some, Timer.wake?, Timer.wake?, hy]
  | rest hn hag htimer hg _ =>
      exact a.keep (hgo hg) (not_renews (hgo hg) hn) (by rw [wake?, htimer]; rfl) hag.nextSweep

theorem of_run {c d : Census} (hc : c.IsNew) (hr : Census.Run c h d) : Watched d.steering h := by
  refine hr.carries hc (fun _ _ _ => ⟨fun _ hw => ?_, False.elim⟩) course
  cases hw

end Watched

/-! ## Punctual censuses -/

namespace Census

/-- **`Punctual c`** — a deadline later than now is published, and when the clock reaches it the
timer starts a sweep at that instant. -/
def Punctual (c : Census) : Prop :=
  ∃ n, c.nextSweep = some n ∧ c.now < n ∧
    ∃ d, c.replay [.pass n, .alarm, .alarm, .embark c.fresh] = some d ∧ d.now = n ∧
      d.sweeping = true

/-- The alarm of a timer that waits is set to an instant after now. -/
theorem AllWait.wake {c : Census} (hw : c.AllWait) (hs : c.sweeping = false)
    (ho : Orderly c.steering) {t : Timer} (ht : c.timer = some t) :
    ∃ w, t.alarm = .set w ∧ c.now < w := by
  have halarm : c.timerTurn = none := hw .alarm rfl
  rw [timerTurn, ht, Option.bind_eq_bind, Option.bind_some] at halarm
  split at halarm
  · cases halarm
  · next w hset =>
    refine ⟨w, hset, Instant.not_le.mp fun hle => ?_⟩
    rw [if_pos hle] at halarm
    cases halarm
  · next id hfollow =>
    -- The sweep that is followed is over, may begin or is in flight, and none of these waits.
    have hover : (c.sweep? id).all (·.phase.isOver) ≠ true := by
      intro h
      rw [if_pos h] at halarm
      cases halarm
    cases hid : c.sweep? id with
    | none =>
        rw [hid] at hover
        exact absurd rfl hover
    | some s =>
        rw [hid] at hover
        have hmem : s ∈ c.steering.sweeps := Steering.mem_of_sweep? (σ := c.steering) hid
        have hidle : s.phase.inFlight = false := by
          apply Bool.eq_false_iff.mpr
          intro hf
          cases hs.symm.trans (ho.sweeps.busy_of s hmem hf)
        have hqueue : s.phase.isQueued = false := hw.isQueued ho hmem
        cases hp : s.phase with
        | queued p =>
            rw [hp] at hqueue
            cases hqueue
        | ended l =>
            rw [Option.all_some, hp] at hover
            exact absurd rfl hover
        | crashed =>
            rw [Option.all_some, hp] at hover
            exact absurd rfl hover
        | _ =>
            rw [hp] at hidle
            cases hidle
  · next hoff => exact absurd hoff (ho.timer t ht).2.2.2.1

/-- A timer that wakes by the deadline starts a sweep when the deadline comes. -/
theorem punctual_of_wake {c : Census} (ho : Orderly c.steering) (hs : c.sweeping = false)
    {t : Timer} (ht : c.timer = some t) {w n : Instant} (hset : t.alarm = .set w)
    (hn : c.nextSweep = some n) (hnow : c.now < n) (hwn : w ≤ n) : c.Punctual := by
  refine ⟨n, hn, hnow, ?_⟩
  -- The states between: the clock at the deadline, the timer awake, the sweep asked for.
  let c₁ : Census := { c with now := n }
  let c₂ := c₁.putTimer { t with alarm := .ringing }
  let s : Sweep := .queued c.fresh (some t.pauses) c.options
  let c₃ := (c₂.requestSweep (some t.pauses)).putTimer { t with alarm := .following c.fresh }
  have h₁ : c.take (.pass n) = some c₁ := take_pass (Instant.le_of_lt hnow)
  have h₂ : c₁.take .alarm = some c₂ := take_alarm_of_set ht hset hwn
  have h₃ : c₂.take .alarm = some c₃ := by
    have hahead : c₂.nothingAhead = true := by
      rw [nothingAhead, show c₂.nextSweep = some n from hn]
      exact decide_eq_true (Instant.le_refl n)
    rw [take_alarm_of_ringing rfl rfl]
    exact congrArg some (ring_ask (ho.timer t ht).2.2.1 hahead hs)
  have h₄ : c₃.take (.embark c.fresh) = some (c₃.embark s) :=
    take_embark (s := s) (sweep?_requestSweep c₂ _) rfl
  refine ⟨c₃.embark s, ?_, now_embark c₃ s, sweeping_embark rfl hs⟩
  simp only [replay, List.foldlM_cons, List.foldlM_nil, h₁, h₂, h₃, h₄, Option.bind_eq_bind,
    Option.bind_some]
  rfl

/-- **`punctual_iff`** — an armed census with continuous options whose tasks all wait sweeps again
at the deadline that it has published, unless it was stranded or the deadline was overslept. -/
theorem punctual_iff {c d : Census} {h : List Step} (hc : c.IsNew) (hr : Run c h d)
    (harmed : d.armed = true) (hcont : d.options.continuous = true) (hs : d.sweeping = false)
    (hw : d.AllWait) : d.Punctual ↔ ¬ Stranded h ∧ ¬ Overslept h := by
  have ho : Orderly d.steering := hr.orderly hc.orderly
  have acc := Accounted.of_run hc hr
  have a := Watched.of_run hc hr
  constructor
  · rintro ⟨n, hn, hnow, e, he, -⟩
    -- The timer has its turn at the deadline, so there is one, and it sleeps no longer than that.
    obtain ⟨c₁, h₁, he⟩ := Option.bind_eq_some_iff.mp he
    obtain ⟨c₂, h₂, -⟩ := Option.bind_eq_some_iff.mp he
    obtain rfl : { d with now := n } = c₁ :=
      Option.some.inj ((take_pass (Instant.le_of_lt hnow)).symm.trans h₁)
    obtain ⟨t, ht, h₂⟩ := Option.bind_eq_some_iff.mp h₂
    obtain ⟨w, hset, hnw⟩ := hw.wake hs ho ht
    have hwake : d.steering.wake? = some w := Watched.wake?_of_set ht hset
    refine ⟨fun hstr => ?_, fun hover => ?_⟩
    · cases (acc.lasting hstr).2.symm.trans ht
    · obtain ⟨w', n', hw', hn', hlt⟩ := a.lasting hover
      -- The deadline has come, and the timer sleeps on.
      obtain rfl := Option.some.inj (hwake.symm.trans hw')
      obtain rfl : n = n' := Option.some.inj (hn.symm.trans hn')
      simp only [hset] at h₂
      rw [if_neg (Instant.not_le.mpr hlt)] at h₂
      cases h₂
  · rintro ⟨hstr, hover⟩
    have htimer : d.timer ≠ none := by
      intro hnone
      rcases acc.explained harmed hnone with h | ⟨h, -⟩
      · exact hstr h
      · cases hcont.symm.trans h
    obtain ⟨t, ht⟩ := Option.ne_none_iff_exists'.mp htimer
    obtain ⟨w, hset, hnw⟩ := hw.wake hs ho ht
    have hwake : d.steering.wake? = some w := Watched.wake?_of_set ht hset
    obtain ⟨n, hn, hor⟩ := a.timely w hwake
    have hwn : w ≤ n := hor.resolve_right hover
    exact punctual_of_wake ho hs ht hset hn (Instant.lt_of_lt_of_le hnw hwn) hwn

/-- A timer that sleeps until the deadline. -/
theorem small_punctual_iff :
    ∃ h d, Run (small true) h d ∧ d.AllWait ∧ (d.Punctual ↔ ¬ Stranded h ∧ ¬ Overslept h) := by
  have hd : ((small true).replay smallNap).any (fun d => decide
      (d.armed = true ∧ d.options.continuous = true ∧ d.sweeping = false ∧ d.AllWait)) = true := by
    decide +kernel
  obtain ⟨d, hd, hp⟩ := (Option.any_eq_true _ _).mp hd
  obtain ⟨harmed, hcont, hs, hw⟩ := of_decide_eq_true hp
  have hr := run_of_replay hd
  exact ⟨_, d, hr, hw, punctual_iff (small_isNew true) hr harmed hcont hs hw⟩

/-- The turns of a small census whose owner shortens the interval while the timer sleeps, and asks
for a sweep. -/
def smallDetour : List Turn :=
  smallNap ++
    [.setOptions { smallOptions true with intervalMinutes := 1 }, .requestSweep, .embark 2] ++
    smallSweep 2 3

/-- **`deadline_overslept`** — with a shorter interval, a sweep asked for by hand moves the deadline
forward while the timer sleeps, and the timer does not notice. -/
theorem deadline_overslept :
    ∃ d, (small true).replay smallDetour = some d ∧
      (d.armed = true ∧ d.options.continuous = true ∧ d.sweeping = false ∧ d.AllWait) ∧
      ¬ d.Punctual := by
  have hd : ((small true).replay smallDetour).any (fun d => decide
      ((d.armed = true ∧ d.options.continuous = true ∧ d.sweeping = false ∧ d.AllWait) ∧
        d.nextSweep.bind (fun n => d.replay [.pass n, .alarm, .alarm, .embark d.fresh]) = none)) =
      true := by
    decide +kernel
  obtain ⟨d, hd, hp⟩ := (Option.any_eq_true _ _).mp hd
  obtain ⟨hidle, hnone⟩ := of_decide_eq_true hp
  refine ⟨d, hd, hidle, ?_⟩
  rintro ⟨n, hn, -, e, he, -⟩
  rw [hn, Option.bind_some, he] at hnone
  cases hnone

end Census

end LanCensus
