/-
# LanCensus.Proofs.Census.Pace -- the pace of the timer

The task that repeats sweeps goes round a loop. A pass of it begins when the alarm rings
(`Step.passes`); the pass sets the alarm to the deadline, or asks for a sweep and follows it, or, with
a sweep of somebody else in flight, plans ahead. The deadline is shared: sweeps that others have asked
for move it while the timer sleeps or follows its own.

`Paced` says that the timer is neither early nor restless all the same. It asks for no sweep before
the interval after the latest completion is over, and of two passes that follow one another one waits,
or a minute lies between them. The first rests on `Timely`, an invariant of the deadline and the
latest completion; the second on what becomes of the alarm and the deadline between two passes
(`Meanwhile`).
-/

import LanCensus.Proofs.Census.Signals

namespace LanCensus

/-! ## Passes -/

/-- What the timer waits for, if there is one. -/
def Steering.alarm? (σ : Steering) : Option Alarm := σ.timer.map (·.alarm)

namespace Step

/-- A pass of the loop begins. -/
def passes (x : Step) : Prop := x.turn = .alarm ∧ x.before.alarm? = some .ringing

/-- A pass sets the alarm to `w`. -/
def sleeps (x : Step) (w : Instant) : Prop := x.passes ∧ x.after.alarm? = some (.set w)

/-- A pass asks for the sweep `id`. -/
def asks (x : Step) (id : Nat) : Prop := x.passes ∧ x.after.alarm? = some (.following id)

/-- Sweeping is started that had not been started. -/
def arms (x : Step) : Prop := x.turn.isStart = true ∧ x.before.armed = false

end Step

/-- **`LastCompleted s t h`** — since the census was last armed a sweep has completed, and the latest
was `s`, at `t`. -/
def LastCompleted (s : Sweep) (t : Instant) : List Step → Prop :=
  Since (fun x => x.completes s ∧ x.before.now = t) fun x => x.arms ∨ ∃ u, x.completes u

/-! ## The clock -/

section

open Steering

variable {σ τ : Steering} {t : Turn}

/-- The clock never goes back. -/
theorem Moves.now_le (hm : Moves σ t τ) : σ.now ≤ τ.now := by
  cases hm with
  | pass hn => exact hn
  | complete =>
      obtain ⟨n, hn⟩ := σ.publish_eq _
      rw [hn]
      exact Instant.le_refl _
  | alarmBusy | alarmFollow =>
      obtain ⟨n, hn⟩ := σ.planAhead_eq
      rw [hn]
      exact Instant.le_refl _
  | _ => exact Instant.le_refl _

theorem Census.Run.now_le {c d : Census} {h : List Step} (hr : Census.Run c h d) :
    c.now ≤ d.now := by
  induction hr with
  | start => exact Instant.le_refl _
  | turn _ ht ih => exact Instant.le_trans ih (Census.take_moves ht).now_le

theorem Steering.nothingAhead_iff : σ.nothingAhead = true ↔ ∀ n, σ.nextSweep = some n → n ≤ σ.now := by
  unfold nothingAhead
  cases σ.nextSweep with
  | none => simp
  | some due => simp

/-- The timer moves a deadline only if it has come, and then one interval away. -/
theorem Moves.nextSweep_of_alarm (hm : Moves σ .alarm τ) :
    τ.nextSweep = σ.nextSweep ∨
      (σ.nothingAhead = true ∧ τ.nextSweep = some (dueAfter σ.now σ.options.interval)) := by
  have hplan : σ.planAhead.nextSweep = σ.nextSweep ∨ (σ.nothingAhead = true ∧
      σ.planAhead.nextSweep = some (dueAfter σ.now σ.options.interval)) := by
    unfold planAhead
    split
    · next h => exact .inr ⟨h, rfl⟩
    · exact .inl rfl
  cases hm with
  | keepArmed ht | armTimer ht | armOnce ht => cases ht
  | alarmBusy | alarmFollow => exact hplan
  | _ => exact .inl rfl

end

/-! ## Never early -/

/-- **`Timely σ h`** — while there is a timer, no deadline stands that comes before the interval after
the latest completion is over, unless it is over. -/
def Timely (σ : Steering) (h : List Step) : Prop :=
  σ.timer ≠ none → ∀ s t, LastCompleted s t h → s.options.continuous = true →
    ∃ n, σ.nextSweep = some n ∧
      (dueAfter t s.options.interval ≤ n ∨ dueAfter t s.options.interval ≤ σ.now)

namespace Timely

open Steering

variable {σ τ : Steering} {t : Turn} {h : List Step}

theorem lastCompleted_of_cons {s : Sweep} {u : Instant} (hc : ∀ s, ¬ (Step.mk σ t τ).completes s)
    (hl : LastCompleted s u (⟨σ, t, τ⟩ :: h)) :
    ¬ (Step.mk σ t τ).arms ∧ LastCompleted s u h := by
  rcases hl with ⟨hs, -⟩ | ⟨hq, hl⟩
  · exact (hc s hs).elim
  · exact ⟨fun harms => hq (.inl harms), hl⟩

/-- A turn that completes nothing and leaves the deadline. -/
theorem keep (a : Timely σ h) (hc : ∀ s, ¬ (Step.mk σ t τ).completes s)
    (ht : τ.timer ≠ none → σ.timer ≠ none) (hn : τ.nextSweep = σ.nextSweep)
    (hnow : σ.now ≤ τ.now) : Timely τ (⟨σ, t, τ⟩ :: h) := by
  intro hx s u hl hcont
  obtain ⟨n, hdue, hor⟩ := a (ht hx) s u (lastCompleted_of_cons hc hl).2 hcont
  exact ⟨n, hn.trans hdue, hor.imp_right fun hle => Instant.le_trans hle hnow⟩

theorem of_arms (hc : ∀ s, ¬ (Step.mk σ t τ).completes s) (harms : (Step.mk σ t τ).arms) :
    Timely τ (⟨σ, t, τ⟩ :: h) :=
  fun _ _ _ hl => ((lastCompleted_of_cons hc hl).1 harms).elim

theorem alarm (a : Timely σ h) (hc : ∀ s, ¬ (Step.mk σ .alarm τ).completes s)
    (ht : σ.timer ≠ none) (hm : Moves σ .alarm τ) : Timely τ (⟨σ, .alarm, τ⟩ :: h) := by
  rcases hm.nextSweep_of_alarm with hn | ⟨hahead, hn⟩
  · exact a.keep hc (fun _ => ht) hn hm.now_le
  · intro _ s u hl hcont
    obtain ⟨n, hdue, hor⟩ := a ht s u (lastCompleted_of_cons hc hl).2 hcont
    have hcome : n ≤ σ.now := nothingAhead_iff.mp hahead n hdue
    have hover : dueAfter u s.options.interval ≤ σ.now :=
      hor.elim (fun hle => Instant.le_trans hle hcome) id
    exact ⟨_, hn, .inr (Instant.le_trans hover hm.now_le)⟩

/-- A sweep that completes while there is a timer publishes its own deadline. -/
theorem complete (ho : Orderly σ) {s : Sweep} {l : List Device} (hs : σ.sweep? s.id = some s)
    (hp : s.phase = .draining) :
    Timely ((σ.publish s).conclude s l) (⟨σ, .proceed s.id, (σ.publish s).conclude s l⟩ :: h) := by
  intro htimer u v hl hcont
  have hx : σ.timer ≠ none := by
    obtain ⟨n, hn⟩ := σ.publish_eq s
    rw [hn] at htimer
    exact htimer
  obtain ⟨x, hx⟩ := Option.ne_none_iff_exists'.mp hx
  have harmed : σ.armed = true := (ho.timer x hx).1
  have hs' : (σ.publish s).sweep? s.id = some s := (sweep?_publish σ s s.id).trans hs
  have hcomp : (Step.mk σ (.proceed s.id) ((σ.publish s).conclude s l)).completes s :=
    ⟨hs, hp, l, phase?_conclude hs' l⟩
  rcases hl with ⟨hu, rfl⟩ | ⟨hq, -⟩
  · obtain rfl := ho.eq_of_completes hs (by rw [hp]; rfl) hu
    refine ⟨_, ?_, .inl (Instant.le_refl _)⟩
    show (σ.publish u).nextSweep = _
    rw [publish, if_pos (by rw [harmed, hcont]; rfl)]
  · exact (hq (.inr ⟨s, hcomp⟩)).elim

theorem moves (a : Timely σ h) (ho : Orderly σ) (hm : Moves σ t τ) :
    Timely τ (⟨σ, t, τ⟩ :: h) := by
  have hgo : ∀ {t τ}, σ.GoesOn τ → ∀ s, ¬ (Step.mk σ t τ).completes s := fun hg _ hs =>
    hg.not_ends hs.ends
  cases hm.course ho with
  | armTimer ht ha => exact of_arms (hgo (GoesOn.of_phases fun _ => rfl)) ⟨ht, ha⟩
  | armOnce ht ha => exact of_arms (hgo (ho.goesOn_ask _)) ⟨ht, ha⟩
  | pause | disband => exact fun htimer => (htimer rfl).elim
  | adopt => exact a.keep (hgo (GoesOn.of_phases fun _ => rfl)) id rfl hm.now_le
  | @halt s _ _ hs hp =>
      refine a.keep (fun u hu => ?_) id rfl hm.now_le
      obtain rfl := ho.eq_of_completes hs (by rw [hp]; rfl) hu
      cases hp.symm.trans hu.2.1
  | complete hs hp => exact complete ho hs hp
  | @fail _ s _ hs hf hφ _ hag htimer =>
      refine a.keep (fun u hu => ?_) (htimer ▸ id) hag.nextSweep hm.now_le
      obtain rfl := ho.eq_of_completes hs hf hu
      obtain ⟨l, hl⟩ := hu.2.2
      cases hφ.symm.trans hl
  | @alarm x _ _ hx _ _ _ _ _ hg => exact a.alarm (hgo hg) (by rw [hx]; exact nofun) hm
  | @tick x _ hx =>
      exact a.keep (hgo (GoesOn.of_phases fun _ => rfl)) (fun _ => by rw [hx]; exact nofun) rfl
        hm.now_le
  | rest _ hag htimer hg => exact a.keep (hgo hg) (htimer ▸ id) hag.nextSweep hm.now_le

end Timely

theorem Census.Run.timely {c d : Census} {h : List Step} (hr : Census.Run c h d) (hc : c.IsNew) :
    Timely d.steering h := by
  induction hr with
  | start =>
      intro _ _ _ hl
      exact hl.elim
  | turn hr ht ih => exact ih.moves (hr.orderly hc.orderly) (take_moves ht)

/-! ## What a pass does -/

section

open Steering

variable {σ τ : Steering} {t : Turn}

theorem Steering.alarm?_of_timer {x : Timer} (h : σ.timer = some x) : σ.alarm? = some x.alarm := by
  rw [alarm?, h, Option.map_some]

/-- **`Pass σ τ`** — the ways in which a pass that begins with `σ` can go on. -/
inductive Pass (σ τ : Steering) : Prop
  | sleep {n : Instant} : σ.nextSweep = some n → σ.now < n → τ.alarm? = some (.set n) → Pass σ τ
  | ask {p : Option Nat} : σ.nothingAhead = true → τ.alarm? = some (.following σ.fresh) →
      τ.phase? σ.fresh = some (.queued p) → τ.nextSweep = σ.nextSweep → Pass σ τ
  | plan : σ.nothingAhead = true → τ.alarm? = some .ringing →
      τ.nextSweep = some (dueAfter σ.now σ.options.interval) → Pass σ τ

end

/-- A pass is a turn of a timer. -/
theorem Step.passes.timer {x : Step} (h : x.passes) : ∃ y, x.before.timer = some y := by
  obtain ⟨y, hy, -⟩ := Option.map_eq_some_iff.mp h.2
  exact ⟨y, hy⟩

/-! ## Never early: passes -/

/-- The shortest interval between repeated sweeps. -/
def Sweep.shortestInterval : Span := .ofSeconds 60

theorem Sweep.Options.IsValid.shortest_le {o : Options} (h : o.IsValid) (hc : o.continuous = true) :
    shortestInterval.nanos ≤ o.interval.nanos := by
  have hm : 0 < o.intervalMinutes.toNat :=
    Nat.pos_of_ne_zero fun hz => h.bounds.2.2 hc (UInt64.toNat_inj.mp hz)
  simp only [shortestInterval, interval, intervalSeconds, Span.ofSeconds, nanosPerSecond,
    Text.wordBound]
  omega

/-- **`Far t n`** — between an instant from `t` on and `n` there is time for the shortest interval, or
no instant comes after `n`. -/
def Far (t n : Instant) : Prop :=
  ∃ u, t ≤ u ∧ (u.plus Sweep.shortestInterval ≤ n ∨ Instant.last ≤ n)

namespace Far

variable {t u n m : Instant}

theorem mono (h : Far t n) (hn : n ≤ m) : Far t m := by
  obtain ⟨u, hu, hor⟩ := h
  exact ⟨u, hu, hor.imp (Instant.le_trans · hn) (Instant.le_trans · hn)⟩

theorem of_le (h : Far u n) (ht : t ≤ u) : Far t n := by
  obtain ⟨v, hv, hor⟩ := h
  exact ⟨v, Instant.le_trans ht hv, hor⟩

/-- Continuous options put the deadline far away. -/
theorem dueAfter {o : Sweep.Options} (hv : o.IsValid) (hc : o.continuous = true) (t : Instant) :
    Far t (dueAfter t o.interval) := by
  refine ⟨t, Instant.le_refl t, ?_⟩
  refine (le_of_dueAfter_le (Instant.le_refl _)).imp_left fun hle => ?_
  exact Instant.le_trans (t.plus_le_plus (hv.shortest_le hc)) hle

end Far

/-! ## Between two passes -/

section

open Steering

variable {σ τ : Steering} {t : Turn}

/-- **`Meanwhile σ τ`** — what becomes of the alarm and the deadline while no pass begins and nothing is
armed. -/
inductive Meanwhile (σ τ : Steering) : Prop
  | drop : τ.alarm? = none → τ.nextSweep = none → Meanwhile σ τ
  | keep : τ.alarm? = σ.alarm? → τ.nextSweep = σ.nextSweep → Meanwhile σ τ
  | renew {n : Instant} : τ.alarm? = σ.alarm? → τ.nextSweep = some n → Far σ.now n → Meanwhile σ τ
  | wake {w : Instant} : σ.alarm? = some (.set w) → w ≤ σ.now → τ.alarm? = some .ringing →
      τ.nextSweep = σ.nextSweep → Meanwhile σ τ
  | goOn {id : Nat} {n : Instant} : σ.alarm? = some (.following id) →
      (σ.phase? id).all (·.isOver) = true → τ.alarm? = some .ringing → τ.nextSweep = some n →
      (σ.nextSweep = some n ∧ σ.now < n) ∨ Far σ.now n → Meanwhile σ τ

theorem Meanwhile.complete (hs : Supplied σ) {s : Sweep} {l : List Device}
    (hsweep : σ.sweep? s.id = some s) (hp : s.phase = .draining) :
    Meanwhile σ ((σ.publish s).conclude s l) := by
  have hv : s.options.IsValid := hs.options s (mem_of_sweep? hsweep) (by rw [hp]; rfl)
  have hdue : ((σ.publish s).conclude s l).nextSweep = (σ.publish s).nextSweep := rfl
  have halarm : ((σ.publish s).conclude s l).alarm? = σ.alarm? := by
    obtain ⟨n, hn⟩ := σ.publish_eq s
    rw [hn]
    rfl
  by_cases hpub : (σ.armed && s.options.continuous) = true
  · refine .renew (n := dueAfter σ.now s.options.interval) halarm ?_
      (.dueAfter hv (Bool.and_eq_true_iff.mp hpub).2 _)
    rw [hdue, publish, if_pos hpub]
  · refine .keep halarm ?_
    rw [hdue, publish, if_neg hpub]

end

/-! ## Sweeps keep their numbers -/

section

open Steering

variable {σ τ : Steering} {t : Turn} {id : Nat}

theorem Steering.exists_phase? (h : id ∈ σ.sweeps.map (·.id)) : ∃ φ, σ.phase? id = some φ := by
  obtain ⟨s, hs, rfl⟩ := List.mem_map.mp h
  cases hf : σ.sweep? s.id with
  | none => exact absurd (beq_self_eq_true s.id) (List.find?_eq_none.mp hf s hs)
  | some u => exact ⟨u.phase, phase?_of_sweep? hf⟩

/-- No sweep that was asked for is forgotten. -/
theorem Moves.ids_suffix (hm : Moves σ t τ) :
    σ.sweeps.map (·.id) <:+ τ.sweeps.map (·.id) := by
  have heq : ∀ {υ : Steering}, υ.sweeps.map (·.id) = σ.sweeps.map (·.id) →
      σ.sweeps.map (·.id) <:+ υ.sweeps.map (·.id) := fun h => h ▸ List.suffix_refl _
  cases hm with
  | armOnce | request | alarmAsk => exact List.suffix_cons _ _
  | turnAway | embark | abort | callOff | overload | setOut | collapse | await | stop | dispatch
  | stumble | wake => exact heq (ids_put _)
  | complete =>
      obtain ⟨n, hn⟩ := σ.publish_eq _
      rw [hn]
      exact heq (ids_put _)
  | alarmBusy | alarmFollow =>
      obtain ⟨n, hn⟩ := σ.planAhead_eq
      exact heq (by rw [hn])
  | endProbe =>
      refine heq ?_
      rw [release, List.map_map]
      refine congrArg (List.map · σ.sweeps) (funext fun s => ?_)
      rw [Function.comp_apply]
      split <;> rfl
  | _ => exact List.suffix_refl _

end

/-! ## From one pass to the next -/

/-- Since a pass set the alarm to `w`, the timer has slept, or it is awake and `w` has come. -/
def Asleep (w : Instant) (σ : Steering) : Prop :=
  ∀ a, σ.alarm? = some a → a = .set w ∨ (a = .ringing ∧ w ≤ σ.now)

/-- **`Awake start asked σ`** — since a pass at `start` that did not set the alarm but may have asked for
a sweep, the timer follows that sweep, or its alarm rings, the sweep is over and the deadline is far
from `start`. -/
structure Awake (start : Instant) (asked : Option Nat) (σ : Steering) : Prop where
  since : start ≤ σ.now
  deadline : ∀ n, σ.nextSweep = some n → n ≤ start ∨ Far start n
  known : ∀ id, asked = some id → id ∈ σ.sweeps.map (·.id)
  alarm : ∀ a, σ.alarm? = some a → (∃ id, a = .following id ∧ asked = some id) ∨
    (a = .ringing ∧ (∃ n, σ.nextSweep = some n ∧ Far start n) ∧
      ∀ id, asked = some id → ∃ φ, σ.phase? id = some φ ∧ φ.isOver = true)

namespace Awake

variable {start : Instant} {asked : Option Nat} {σ τ : Steering} {t : Turn}

/-- The deadline is as before, or far away. -/
theorem of_deadline (a : Awake start asked σ) (hm : Moves σ t τ) (ho : Orderly σ)
    (ha : τ.alarm? = σ.alarm?)
    (hn : τ.nextSweep = σ.nextSweep ∨ ∃ n, τ.nextSweep = some n ∧ Far start n) :
    Awake start asked τ where
  since := Instant.le_trans a.since hm.now_le
  deadline n hdue := by
    rcases hn with hn | ⟨m, hm, hfar⟩
    · exact a.deadline n (hn ▸ hdue)
    · cases hm.symm.trans hdue
      exact .inr hfar
  known id hid := hm.ids_suffix.subset (a.known id hid)
  alarm b hb := by
    refine (a.alarm b (ha ▸ hb)).imp_right fun ⟨hr, hdue, hover⟩ => ⟨hr, ?_, fun id hid => ?_⟩
    · rcases hn with hn | hn
      · rwa [hn]
      · exact hn
    · obtain ⟨φ, hφ, hφover⟩ := hover id hid
      exact ⟨φ, hm.phase?_eq_of_isOver ho hφ hφover, hφover⟩

theorem moves (a : Awake start asked σ) (hm : Moves σ t τ) (ho : Orderly σ) (h : Meanwhile σ τ) :
    Awake start asked τ := by
  have hsince : start ≤ τ.now := Instant.le_trans a.since hm.now_le
  have hknown : ∀ id, asked = some id → id ∈ τ.sweeps.map (·.id) := fun id hid =>
    hm.ids_suffix.subset (a.known id hid)
  cases h with
  | drop ha hn =>
      refine ⟨hsince, fun n hdue => ?_, hknown, fun b hb => ?_⟩
      · cases hn.symm.trans hdue
      · cases ha.symm.trans hb
  | keep ha hn => exact a.of_deadline hm ho ha (.inl hn)
  | renew ha hn hfar => exact a.of_deadline hm ho ha (.inr ⟨_, hn, hfar.of_le a.since⟩)
  | wake hset =>
      rcases a.alarm _ hset with ⟨id, he, -⟩ | ⟨he, -⟩ <;> cases he
  | @goOn id n hf hover ha hn hor =>
      -- A deadline ahead of the clock was published after the pass began.
      have hfar : Far start n := by
        rcases hor with ⟨hdue, hlt⟩ | hfar
        · rcases a.deadline n hdue with hle | hfar
          · exact (Instant.not_le.mpr hlt (Instant.le_trans hle a.since)).elim
          · exact hfar
        · exact hfar.of_le a.since
      refine ⟨hsince, fun m hm => ?_, hknown, fun b hb => ?_⟩
      · cases hn.symm.trans hm
        exact .inr hfar
      · obtain rfl := Option.some.inj (ha.symm.trans hb)
        refine .inr ⟨rfl, ⟨n, hn, hfar⟩, fun id' hid' => ?_⟩
        rcases a.alarm _ hf with ⟨_, he, hasked⟩ | ⟨he, -⟩
        · cases he
          obtain rfl := Option.some.inj (hasked.symm.trans hid')
          obtain ⟨φ, hφ⟩ := Steering.exists_phase? (a.known id hid')
          rw [hφ, Option.all_some] at hover
          exact ⟨φ, hm.phase?_eq_of_isOver ho hφ hover, hover⟩
        · cases he

end Awake

/-! ## The pace of a run -/

/-- **`Paced h`** — the timer was never early and never restless. -/
structure Paced (h : List Step) : Prop where
  /-- When a pass asks for a sweep, and from then on, the interval of the latest completed sweep is over
  since it completed. -/
  early : ∀ later x earlier id s t, h = later ++ x :: earlier → x.asks id →
    LastCompleted s t earlier → s.options.continuous = true → ∀ y ∈ later ++ [x],
      t.plus s.options.interval ≤ y.before.now ∨ Instant.last ≤ y.before.now
  /-- A pass sets the alarm to an instant ahead, asks for a sweep, or leaves a deadline ahead. -/
  stirs : ∀ x ∈ h, x.passes → x.before.now < Instant.last →
    (∃ w, x.sleeps w ∧ x.before.now < w) ∨
      (∃ id p, x.asks id ∧ x.after.phase? id = some (.queued p)) ∨
      ∃ n, x.after.nextSweep = some n ∧ x.before.now < n
  /-- By the next pass of the loop a sweep that was asked for is over; and the timer has slept, or it
  goes to sleep now, or the shortest interval has gone by between the two. -/
  rests : ∀ later y between x earlier, h = later ++ y :: (between ++ x :: earlier) → x.passes →
    y.passes → (∀ z ∈ between, ¬ z.passes ∧ ¬ z.arms) →
    (∀ id, x.asks id → ∃ φ, y.before.phase? id = some φ ∧ φ.isOver = true) ∧
      ((∃ w, x.sleeps w ∧ w ≤ y.before.now) ∨ (∃ w, y.sleeps w ∧ y.before.now < w) ∨
        Far x.before.now y.before.now)

/-- After a pass that did not set the alarm the timer is awake. -/
theorem Pass.awake {σ τ : Steering} {t : Turn} (h : Pass σ τ) (hm : Moves σ t τ) (ho : Orderly σ)
    (hv : σ.options.continuous = true) (hno : ∀ w, τ.alarm? ≠ some (.set w)) :
    ∃ asked, (∀ id, τ.alarm? = some (.following id) → asked = some id) ∧
      Awake σ.now asked τ := by
  cases h with
  | sleep _ _ ha => exact (hno _ ha).elim
  | ask hahead ha hφ hn =>
      refine ⟨some σ.fresh, fun id hid => ?_, hm.now_le, fun n hdue => .inl ?_, fun id hid => ?_,
        fun a h => .inl ⟨σ.fresh, ?_, rfl⟩⟩
      · cases ha.symm.trans hid
        rfl
      · exact Steering.nothingAhead_iff.mp hahead n (hn.symm.trans hdue)
      · cases hid
        obtain ⟨s, hs, hid, -⟩ := Steering.mem_of_phase? hφ
        exact List.mem_map.mpr ⟨s, hs, hid⟩
      · exact (Option.some.inj (ha.symm.trans h)).symm
  | plan _ ha hn =>
      have hfar : Far σ.now (dueAfter σ.now σ.options.interval) := .dueAfter ho.valid hv _
      refine ⟨none, fun id hid => ?_, hm.now_le, fun n hdue => .inr ?_, nofun, fun a h => .inr ?_⟩
      · cases ha.symm.trans hid
      · cases hn.symm.trans hdue
        exact hfar
      · exact ⟨(Option.some.inj (ha.symm.trans h)).symm, ⟨_, hn, hfar⟩, nofun⟩

namespace Census

variable {c d b : Census} {h earlier : List Step}

end Census

end LanCensus
