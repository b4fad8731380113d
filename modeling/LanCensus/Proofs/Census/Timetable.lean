/-
# LanCensus.Proofs.Census.Timetable -- the schedule and its announcements

A census knows when the next sweep is due and when the last one was completed, and it announces both. The
deadline is changed by its owner, by the timer and by sweeps that are completed, which may be sweeps of a
census that has been paused and armed again since. All of them change it in one place, and only if it is
a change (`Timetable.plan`). A sweep that is completed writes down the instant and announces it
(`Timetable.complete`).

`take_arranges` says that a turn does nothing else to the schedule: it plans, or it is the last turn of a
sweep, and then it completes and plans. So the schedule is always what was announced last
(`Timetable.IsMirrored`).
-/

import LanCensus.Proofs.Census.Steering
import Mathlib.Data.List.Chain

namespace LanCensus

/-- The deadline that a notice announces. -/
def Notice.deadline? : Notice → Option (Option Instant)
  | .schedule (.nextSweep due) => some due
  | _ => none

/-- The instant at which a sweep was completed, as a notice announces it. -/
def Notice.completion? : Notice → Option Instant
  | .schedule (.sweepCompleted time) => some time
  | _ => none

/-- Whether a sweep that has set out goes on with the turn, or ends. -/
def Turn.isProceed : Turn → Bool
  | .proceed _ => true
  | _ => false

/-! ## The timetable of a census -/

/-- **`Timetable`** — the schedule of a census and what it has announced of it, the latest first. -/
structure Timetable where
  nextSweep : Option Instant
  lastSweep : Option Instant
  deadlines : List (Option Instant)
  completions : List Instant

namespace Timetable

variable {T : Timetable}

/-- The deadline is `due` from now on. -/
def plan (T : Timetable) (due : Option Instant) : Timetable :=
  if T.nextSweep = due then T
  else { T with nextSweep := due, deadlines := due :: T.deadlines }

/-- A sweep has been completed. -/
def complete (T : Timetable) (time : Instant) : Timetable :=
  { T with lastSweep := some time, completions := time :: T.completions }

@[simp] theorem plan_nextSweep (T : Timetable) : T.plan T.nextSweep = T := if_pos rfl

@[simp] theorem completions_plan (T : Timetable) (due : Option Instant) :
    (T.plan due).completions = T.completions := by
  unfold plan
  split <;> rfl

/-- **`IsMirrored T`** — the schedule is what was announced last, or nothing if nothing was, and of two
deadlines announced one after the other the second is another one. -/
structure IsMirrored (T : Timetable) : Prop where
  next : T.nextSweep = T.deadlines.headD none
  last : T.lastSweep = T.completions.head?
  changes : T.deadlines.IsChain (· ≠ ·)

namespace IsMirrored

theorem plan (h : T.IsMirrored) (due : Option Instant) : (T.plan due).IsMirrored := by
  unfold Timetable.plan
  split
  · exact h
  · next hne =>
    refine ⟨rfl, h.last, List.isChain_cons.mpr ⟨fun d hd => ?_, h.changes⟩⟩
    -- The deadline that was announced last is the one that is replaced.
    have hnext : T.nextSweep = d := by
      rw [h.next, List.headD_eq_head?_getD, Option.mem_def.mp hd]
      rfl
    rw [← hnext]
    exact Ne.symm hne

theorem complete (h : T.IsMirrored) (time : Instant) : (T.complete time).IsMirrored :=
  ⟨h.next, rfl, h.changes⟩

end IsMirrored

end Timetable

namespace Census

/-- The deadlines that were announced, the latest first. -/
def deadlines (c : Census) : List (Option Instant) := c.notices.filterMap Notice.deadline?

/-- The completions that were announced, the latest first. -/
def completions (c : Census) : List Instant := c.notices.filterMap Notice.completion?

/-- The timetable of a census. -/
def timetable (c : Census) : Timetable where
  nextSweep := c.nextSweep
  lastSweep := c.lastSweep
  deadlines := c.deadlines
  completions := c.completions

/-- The turn is the last one of a sweep that dispatches no more. -/
def Completes (c : Census) (t : Turn) : Prop :=
  ∃ s, t = .proceed s.id ∧ c.steering.sweep? s.id = some s ∧ s.phase = .draining

/-- **`Plans c e`** — `e` has the timetable of `c`, but for another deadline perhaps. -/
def Plans (c e : Census) : Prop := ∃ due, e.timetable = c.timetable.plan due

/-- **`Arranges c t T`** — after the turn `t` the timetable of `c` can be `T`. -/
inductive Arranges (c : Census) : Turn → Timetable → Prop
  | plan {t : Turn} (due : Option Instant) : ¬ c.Completes t → Arranges c t (c.timetable.plan due)
  | complete {t : Turn} (due : Option Instant) :
      c.Completes t → Arranges c t ((c.timetable.complete c.now).plan due)

variable {c e : Census}

theorem Plans.of_eq (h : e.timetable = c.timetable) : Plans c e :=
  ⟨c.nextSweep, h.trans c.timetable.plan_nextSweep.symm⟩

/-- A sweep that still dispatches has not come to its last turn. -/
theorem not_completes_of_phase {s : Sweep} (hs : c.steering.sweep? s.id = some s)
    (hp : s.phase ≠ .draining) : ¬ c.Completes (.proceed s.id) := by
  rintro ⟨u, hid, hu, hd⟩
  rw [← Turn.proceed.inj hid] at hu
  obtain rfl := Option.some.inj (hs.symm.trans hu)
  exact hp hd

theorem not_completes_of_turn {t : Turn} (ht : t.isProceed = false) : ¬ c.Completes t := by
  rintro ⟨s, rfl, -, -⟩
  cases ht

/-! ## Announcing -/

@[simp] theorem timetable_report (c : Census) (m : String) :
    (c.report m).timetable = c.timetable := rfl

@[simp] theorem timetable_finish (c : Census) (s : Sweep) :
    (c.finish s).timetable = c.timetable := rfl

@[simp] theorem timetable_complainInvalid (c : Census) (names : List String) :
    (c.complainInvalid names).timetable = c.timetable := by
  unfold complainInvalid
  induction names generalizing c with
  | nil => rfl
  | cons name names ih =>
      rw [List.foldl_cons, ih]
      cases Subnet.read name <;> rfl

/-- **`timetable_setNextSweep`** — the deadline is announced exactly if it changes. -/
theorem timetable_setNextSweep (c : Census) (due : Option Instant) :
    (c.setNextSweep due).timetable = c.timetable.plan due := by
  unfold setNextSweep
  split
  · next h => exact (if_pos h).symm
  · next h => exact (if_neg h).symm

theorem timetable_disarm (c : Census) : c.disarm.timetable = c.timetable.plan none :=
  timetable_setNextSweep ..

theorem plans_planAhead (c : Census) : Plans c c.planAhead := by
  unfold planAhead
  split
  · exact ⟨_, timetable_setNextSweep ..⟩
  · exact .of_eq rfl

/-! ## Requests of the owner -/

theorem plans_arm (c : Census) (m : String) : Plans c (c.arm m) := by
  unfold arm
  split
  · exact .of_eq rfl
  · simp only
    split
    · exact ⟨none, timetable_setNextSweep ..⟩
    · exact .of_eq rfl

theorem plans_pause (c : Census) : Plans c c.pause := by
  unfold pause
  simp only
  split <;> exact ⟨none, timetable_disarm _⟩

theorem plans_setOptions (c : Census) (o : Sweep.Options) :
    Plans c ((c.setOptions o).toOption.getD c) := by
  unfold setOptions
  cases o.check with
  | error e => exact .of_eq rfl
  | ok u =>
      simp only [bind, Except.bind, pure, Except.pure]
      split
      · exact .of_eq rfl
      · split <;> exact ⟨none, timetable_disarm _⟩

theorem timetable_remove (c : Census) (a : Address) : (c.remove a).timetable = c.timetable := by
  unfold remove
  split <;> rfl

theorem timetable_beginLookup (c : Census) (text : String) :
    (c.beginLookup text).timetable = c.timetable := by
  unfold beginLookup
  split <;> rfl

theorem timetable_endLookup (c : Census) (l : Lookup) (o : Outcome) :
    (c.endLookup l o).timetable = c.timetable := by
  unfold endLookup
  simp only
  split <;> rfl

/-! ## Sweeps and probes -/

theorem timetable_embark (c : Census) (s : Sweep) : (c.embark s).timetable = c.timetable := by
  unfold embark
  split
  · split <;> rfl
  · rfl

theorem timetable_setOut (c : Census) (s : Sweep) (subnets : List (String × Subnet)) :
    (c.setOut s subnets).timetable = c.timetable := by
  unfold setOut
  simp only
  split <;> rfl

theorem timetable_listed (c : Census) (s : Sweep) (names : List String) :
    (c.listed s names).timetable = c.timetable := by
  unfold listed
  simp only
  split
  · exact timetable_complainInvalid c names
  · split
    · exact timetable_complainInvalid c names
    · exact (timetable_setOut ..).trans (timetable_complainInvalid c names)

theorem timetable_dispatchNext (c : Census) (s : Sweep) :
    (c.dispatchNext s).timetable = c.timetable := by
  unfold dispatchNext
  split
  · rfl
  · split
    · rfl
    · unfold dispatch
      simp only
      split
      · rfl
      · split
        · split <;> rfl
        · rfl

theorem timetable_complete (c : Census) (s : Sweep) :
    ∃ due, (c.complete s).timetable = (c.timetable.complete c.now).plan due := by
  let b : Census := ({ c with lastSweep := some c.now }).announce (.schedule (.sweepCompleted c.now))
  have hb : b.timetable = c.timetable.complete c.now := rfl
  by_cases hp : (b.armed && s.options.continuous) = true
  · refine ⟨some (dueAfter b.now s.options.interval), ?_⟩
    simp only [complete, timetable_finish, timetable_report]
    rw [if_pos hp, timetable_setNextSweep, ← hb]
  · refine ⟨b.nextSweep, ?_⟩
    simp only [complete, timetable_finish, timetable_report]
    rw [if_neg hp, ← hb]
    exact b.timetable.plan_nextSweep.symm

/-- A sweep that still dispatches leaves the schedule alone. -/
theorem timetable_proceed {s : Sweep} (hp : s.phase ≠ .draining) (h : c.proceed s = some e) :
    e.timetable = c.timetable := by
  unfold proceed at h
  split at h
  · split at h <;> cases h
    · exact timetable_dispatchNext ..
    · rfl
  · split at h <;> cases h
    exact timetable_dispatchNext ..
  · split at h <;> cases h
    rfl
  · next hd => exact absurd hd hp
  · cases h

theorem arranges_proceed {s : Sweep} (hs : c.steering.sweep? s.id = some s)
    (h : c.proceed s = some e) : Arranges c (.proceed s.id) e.timetable := by
  by_cases hp : s.phase = .draining
  · have hlast : c.Completes (.proceed s.id) := ⟨s, rfl, hs, hp⟩
    simp only [proceed, hp] at h
    split at h <;> cases h
    obtain ⟨due, hdue⟩ := timetable_complete c s
    rw [hdue]
    exact .complete due hlast
  · obtain ⟨due, hdue⟩ := Plans.of_eq (timetable_proceed hp h)
    rw [hdue]
    exact .plan due (not_completes_of_phase hs hp)

theorem timetable_endProbe (c : Census) (p : Probe) (o : Outcome) :
    (c.endProbe p o).timetable = c.timetable := by
  cases o with
  | missed =>
      show (c.miss p.address).timetable = c.timetable
      unfold miss
      split <;> rfl
  | found f => rfl
  | crashed => rfl

/-! ## The timer -/

theorem plans_ring (c : Census) (t : Timer) : Plans c (c.ring t) := by
  unfold ring
  split
  · exact .of_eq rfl
  · split
    · exact .of_eq rfl
    · split
      · exact c.plans_planAhead
      · exact .of_eq rfl

theorem plans_timerTurn (h : c.timerTurn = some e) : Plans c e := by
  obtain ⟨t, -, h⟩ := Option.bind_eq_some_iff.mp h
  split at h
  · cases h
    exact plans_ring c t
  · split at h <;> cases h
    exact .of_eq rfl
  · split at h <;> cases h
    exact c.plans_planAhead
  · cases h

theorem timetable_tickTurn (h : c.tickTurn = some e) : e.timetable = c.timetable := by
  obtain ⟨t, -, h⟩ := Option.bind_eq_some_iff.mp h
  simp only at h
  split at h
  · cases h
  · split at h <;> cases h
    · rfl
    · show c.countDown.timetable = _
      unfold countDown
      split <;> rfl

/-! ## Turns -/

/-- **`take_arranges`** — every turn that can be taken does to the schedule what `Arranges` says. -/
theorem take_arranges {t : Turn} (h : c.take t = some e) : Arranges c t e.timetable := by
  -- No turn but that of a sweep that goes on can be its last one.
  have hplan : t.isProceed = false → Plans c e → Arranges c t e.timetable := by
    rintro hn ⟨due, hdue⟩
    rw [hdue]
    exact .plan due (not_completes_of_turn hn)
  have hsame : t.isProceed = false → e.timetable = c.timetable → Arranges c t e.timetable :=
    fun hn he => hplan hn (.of_eq he)
  cases t with
  | start | resume =>
      cases h
      exact hplan rfl (plans_arm ..)
  | pause =>
      cases h
      exact hplan rfl c.plans_pause
  | setOptions o =>
      cases h
      exact hplan rfl (plans_setOptions ..)
  | remove a =>
      cases h
      exact hsame rfl (timetable_remove ..)
  | requestSweep =>
      cases h
      exact hsame rfl rfl
  | lookUp text =>
      cases h
      exact hsame rfl (timetable_beginLookup ..)
  | embark id =>
      obtain ⟨s, -, hs⟩ := Option.bind_eq_some_iff.mp h
      split at hs <;> cases hs
      exact hsame rfl (timetable_embark ..)
  | list id names =>
      cases names with
      | ok names =>
          obtain ⟨s, -, -, -, rfl⟩ := settleListing_eq_some h
          exact hsame rfl (timetable_listed ..)
      | error x =>
          obtain ⟨s, -, -, -, rfl⟩ := settleListing_eq_some h
          exact hsame rfl rfl
  | collapse id =>
      obtain ⟨s, -, -, -, rfl⟩ := settleListing_eq_some h
      exact hsame rfl rfl
  | proceed id =>
      obtain ⟨s, hs, hp⟩ := Option.bind_eq_some_iff.mp h
      obtain rfl := Steering.id_of_sweep? (σ := c.steering) hs
      exact arranges_proceed hs hp
  | ping id =>
      obtain ⟨p, -, hp⟩ := Option.bind_eq_some_iff.mp h
      split at hp <;> cases hp
      exact hsame rfl rfl
  | endProbe id o =>
      obtain ⟨p, -, hp⟩ := Option.bind_eq_some_iff.mp h
      split at hp <;> cases hp
      exact hsame rfl (timetable_endProbe ..)
  | endLookup id o =>
      obtain ⟨l, -, rfl⟩ := Option.map_eq_some_iff.mp h
      exact hsame rfl (timetable_endLookup ..)
  | alarm => exact hplan rfl (plans_timerTurn h)
  | tick => exact hsame rfl (timetable_tickTurn h)
  | pass n =>
      simp only [take] at h
      split at h <;> cases h
      exact hsame rfl rfl

/-- The schedule stays what was announced last. -/
theorem isMirrored_take {t : Turn} (h : c.timetable.IsMirrored) (ht : c.take t = some e) :
    e.timetable.IsMirrored := by
  have harr := take_arranges ht
  generalize e.timetable = T at harr
  cases harr with
  | plan due => exact h.plan due
  | complete due => exact (h.complete c.now).plan due

end Census

end LanCensus
