/-
# LanCensus.Proofs.Census.Announcements -- what was announced stays announced

A census never takes back a notice. Each turn puts its own in front of those that are there
(`adds_take`), so whoever knows how many notices there were finds the new ones at the head of the list,
and none is between the old ones.

The lemmas follow the operations of a census one by one, as those of `Records` do.
-/

import LanCensus.Proofs.Census.Steering

namespace LanCensus.Census

/-- **`Adds c d`** — the notices of `d` are those of `c` with others in front. -/
def Adds (c d : Census) : Prop := c.notices <:+ d.notices

namespace Adds

variable {c d e : Census}

theorem refl (c : Census) : Adds c c := List.suffix_refl _

theorem trans (h : Adds c d) (h' : Adds d e) : Adds c e := List.IsSuffix.trans h h'

/-- What leaves the notices as they are. -/
theorem congr (h : Adds c d) (he : e.notices = d.notices) : Adds c e := by
  unfold Adds
  rw [he]
  exact h

/-! ## Announcing -/

theorem announce (h : Adds c d) (n : Notice) : Adds c (d.announce n) :=
  List.IsSuffix.trans h (List.suffix_cons n d.notices)

theorem setNextSweep (h : Adds c d) (due : Option Instant) : Adds c (d.setNextSweep due) := by
  unfold Census.setNextSweep
  split
  · exact h
  · exact announce (h.congr rfl) _

/-! ## Requests of the owner -/

theorem disarm (h : Adds c d) : Adds c d.disarm :=
  setNextSweep (d := { d with armed := false, timer := none }) (h.congr rfl) none

theorem arm (h : Adds c d) (m : String) : Adds c (d.arm m) := by
  unfold Census.arm
  split
  · exact h
  · have harmed : Adds c (({ d with armed := true } : Census).report m) := announce (h.congr rfl) _
    simp only
    split
    · exact (harmed.setNextSweep none).congr rfl
    · exact harmed.congr rfl

theorem pause (h : Adds c d) : Adds c d.pause := by
  have hpaused : Adds c ({ d with pauses := d.pauses + 1 } : Census).disarm := disarm (h.congr rfl)
  unfold Census.pause
  simp only
  split
  · exact hpaused.announce _
  · exact hpaused

theorem setOptions (h : Adds c d) (o : Sweep.Options) :
    Adds c ((d.setOptions o).toOption.getD d) := by
  unfold Census.setOptions
  cases o.check with
  | error x => exact h
  | ok u =>
      have hnew : Adds c { d with options := o } := h.congr rfl
      simp only [bind, Except.bind, pure, Except.pure]
      split
      · exact hnew
      · split
        · exact hnew.disarm.announce _
        · exact hnew.disarm

theorem remove (h : Adds c d) (a : Address) : Adds c (d.remove a) := by
  unfold Census.remove
  split
  · exact announce (h.congr rfl) _
  · exact h

theorem beginLookup (h : Adds c d) (text : String) : Adds c (d.beginLookup text) := by
  unfold Census.beginLookup
  split
  · exact h.announce _
  · exact (h.announce _).congr rfl

theorem endLookup (h : Adds c d) (l : Lookup) (o : Outcome) : Adds c (d.endLookup l o) := by
  unfold Census.endLookup
  simp only
  split
  · exact announce (h.congr rfl) _
  · exact h.congr rfl

/-! ## The timer -/

theorem planAhead (h : Adds c d) : Adds c d.planAhead := by
  unfold Census.planAhead
  split
  · exact h.setNextSweep _
  · exact h

theorem ring (h : Adds c d) (t : Timer) : Adds c (d.ring t) := by
  unfold Census.ring
  split
  · exact h.congr rfl
  · split
    · exact h.congr rfl
    · split
      · exact h.planAhead.congr rfl
      · exact h.congr rfl

theorem timerTurn (h : Adds c d) (ht : d.timerTurn = some e) : Adds c e := by
  obtain ⟨t, -, ht⟩ := Option.bind_eq_some_iff.mp ht
  split at ht
  · cases ht
    exact h.ring t
  · split at ht <;> cases ht
    exact h.congr rfl
  · split at ht <;> cases ht
    exact h.planAhead.congr rfl
  · cases ht

theorem countDown (h : Adds c d) : Adds c d.countDown := by
  unfold Census.countDown
  split
  · exact h.announce _
  · exact h

theorem tickTurn (h : Adds c d) (ht : d.tickTurn = some e) : Adds c e := by
  obtain ⟨t, -, ht⟩ := Option.bind_eq_some_iff.mp ht
  simp only at ht
  split at ht
  · cases ht
  · split at ht <;> cases ht
    · exact h.congr rfl
    · exact h.countDown.congr rfl

/-! ## Sweeps -/

theorem finish (h : Adds c d) (s : Sweep) : Adds c (d.finish s) := announce (h.congr rfl) _

theorem crash (h : Adds c d) (s : Sweep) : Adds c (d.crash s) := h.congr rfl

theorem abort (h : Adds c d) (s : Sweep) (reason : String) : Adds c (d.abort s reason) :=
  (h.announce _).finish s

theorem complete (h : Adds c d) (s : Sweep) : Adds c (d.complete s) := by
  have hnoted : Adds c (({ d with lastSweep := some d.now } : Census).announce
      (.schedule (.sweepCompleted d.now))) := announce (h.congr rfl) _
  unfold Census.complete
  refine finish (announce ?_ _) s
  split
  · exact hnoted.setNextSweep _
  · exact hnoted

theorem embark (h : Adds c d) (s : Sweep) : Adds c (d.embark s) := by
  unfold Census.embark
  split
  · split
    · exact h.congr rfl
    · exact (announce (h.congr rfl) _).congr rfl
  · exact h

theorem complainInvalid (h : Adds c d) (names : List String) : Adds c (d.complainInvalid names) := by
  unfold Census.complainInvalid
  induction names generalizing d with
  | nil => exact h
  | cons name names ih =>
      rw [List.foldl_cons]
      cases Subnet.read name with
      | ok x => exact ih h
      | error x => exact ih (h.announce _)

theorem setOut (h : Adds c d) (s : Sweep) (subnets : List (String × Subnet)) :
    Adds c (d.setOut s subnets) := by
  have hout : ∀ m, Adds c (({ d with inventory := d.inventory.allOffline } : Census).report m) :=
    fun m => announce (h.congr rfl) _
  unfold Census.setOut
  simp only
  split
  · exact (hout _).crash s
  · exact (hout _).congr rfl

theorem listed (h : Adds c d) (s : Sweep) (names : List String) : Adds c (d.listed s names) := by
  have hnamed : Adds c (d.complainInvalid names) := h.complainInvalid names
  unfold Census.listed
  simp only
  split
  · exact hnamed.abort s _
  · split
    · exact hnamed.finish s
    · exact hnamed.setOut s _

theorem dispatch (h : Adds c d) (s : Sweep) (t : Sweep.Target) (rest : List Sweep.Target) :
    Adds c (d.dispatch s t rest) := by
  unfold Census.dispatch
  simp only
  split
  · exact h.congr rfl
  · split
    · split <;> exact (announce (h.congr rfl) _).congr rfl
    · exact h.congr rfl

theorem dispatchNext (h : Adds c d) (s : Sweep) : Adds c (d.dispatchNext s) := by
  unfold Census.dispatchNext
  split
  · exact h.congr rfl
  · split
    · exact h.congr rfl
    · exact h.dispatch s _ _

theorem proceed (h : Adds c d) {s : Sweep} (hs : d.proceed s = some e) : Adds c e := by
  unfold Census.proceed at hs
  split at hs
  · split at hs <;> cases hs
    · exact h.dispatchNext s
    · exact h.congr rfl
  · split at hs <;> cases hs
    exact h.dispatchNext s
  · split at hs <;> cases hs
    exact h.congr rfl
  · split at hs <;> cases hs
    exact h.complete s
  · cases hs

/-! ## Probes -/

theorem miss (h : Adds c d) (a : Address) : Adds c (d.miss a) := by
  unfold Census.miss
  split
  · exact announce (h.congr rfl) _
  · exact h

theorem endProbe (h : Adds c d) (p : Probe) (o : Outcome) : Adds c (d.endProbe p o) := by
  cases o with
  | missed => exact (h.miss p.address).congr rfl
  | found f => exact (announce (h.congr rfl) _).congr rfl
  | crashed => exact h.congr rfl

end Adds

/-! ## Turns -/

variable {c e : Census}

/-- **`adds_take`** — a turn leaves every notice where it is. -/
theorem adds_take {t : Turn} (h : c.take t = some e) : Adds c e := by
  have hc := Adds.refl c
  cases t with
  | start | resume =>
      cases h
      exact hc.arm _
  | pause =>
      cases h
      exact hc.pause
  | setOptions o =>
      cases h
      exact hc.setOptions o
  | remove a =>
      cases h
      exact hc.remove a
  | requestSweep =>
      cases h
      exact hc.congr rfl
  | lookUp text =>
      cases h
      exact hc.beginLookup text
  | embark id =>
      obtain ⟨s, -, h⟩ := Option.bind_eq_some_iff.mp h
      split at h <;> cases h
      exact hc.embark s
  | list id names =>
      cases names with
      | ok names =>
          obtain ⟨s, -, -, -, rfl⟩ := settleListing_eq_some h
          exact hc.listed s names
      | error x =>
          obtain ⟨s, -, -, -, rfl⟩ := settleListing_eq_some h
          exact hc.abort s _
  | collapse id =>
      obtain ⟨s, -, -, -, rfl⟩ := settleListing_eq_some h
      exact hc.crash s
  | proceed id =>
      obtain ⟨s, -, h⟩ := Option.bind_eq_some_iff.mp h
      exact hc.proceed h
  | ping id =>
      obtain ⟨p, -, h⟩ := Option.bind_eq_some_iff.mp h
      split at h <;> cases h
      exact hc.congr rfl
  | endProbe id o =>
      obtain ⟨p, -, h⟩ := Option.bind_eq_some_iff.mp h
      split at h <;> cases h
      exact hc.endProbe p o
  | endLookup id o =>
      obtain ⟨l, -, rfl⟩ := Option.map_eq_some_iff.mp h
      exact hc.endLookup l o
  | alarm => exact hc.timerTurn h
  | tick => exact hc.tickTurn h
  | pass t =>
      simp only [take] at h
      split at h <;> cases h
      exact hc.congr rfl

theorem Reaches.adds {d : Census} (hr : Reaches c d) : Adds c d := by
  induction hr with
  | refl => exact .refl c
  | step _ ht ih => exact ih.trans (adds_take ht)

end LanCensus.Census
