/-
# LanCensus.Proofs.Census.Countdown -- who counts down

The time left until the next sweep is told by the countdown of the timer and by nothing else: no
other turn adds such a notice. Since a timer belongs to an armed census, nothing is counted down
while nothing is armed (`armed_of_countsDown`).
-/

import LanCensus.Proofs.Census.Order
import LanCensus.Proofs.Census.Remarks

namespace LanCensus

/-- The time left that a notice tells. -/
def Notice.countdown? : Notice → Option Span
  | .schedule (.countdown left) => some left
  | _ => none

namespace Census

/-- The times left that the census has told, the latest first. -/
def countdowns (c : Census) : List Span := c.notices.filterMap Notice.countdown?

theorem countdowns_eq (c : Census) : c.countdowns = c.remarks.filterMap Notice.countdown? := by
  refine (c.filterMap_remarks fun n hn => ?_).symm
  unfold Notice.countdown?
  split
  · cases hn
  · rfl

/-- Only a tick tells how much time is left. -/
theorem countdowns_take {c e : Census} {t : Turn} (h : c.take t = some e) (ht : t ≠ .tick) :
    e.countdowns = c.countdowns := by
  have hnone : ((t.faults.map fun m => Notice.progress .error m c.now).filterMap
      Notice.countdown?) = [] := by
    rw [List.filterMap_map]
    exact List.filterMap_eq_nil_iff.mpr fun _ _ => rfl
  rw [countdowns_eq, countdowns_eq, remarks_take h ht, List.filterMap_append, hnone,
    List.nil_append]

/-- **`CountsDown c t`** — the turn `t` of the census tells how much time is left. -/
def CountsDown (c : Census) (t : Turn) : Prop :=
  ∃ e ns left, c.take t = some e ∧ e.notices = ns ++ c.notices ∧ .schedule (.countdown left) ∈ ns

/-- Nothing is counted down while nothing is armed. -/
theorem armed_of_countsDown {c : Census} (ho : Orderly c.steering) {t : Turn}
    (h : c.CountsDown t) : c.armed = true := by
  obtain ⟨e, ns, left, he, hns, hleft⟩ := h
  by_cases ht : t = .tick
  · subst ht
    obtain ⟨x, hx, -⟩ := Option.bind_eq_some_iff.mp he
    exact (ho.timer x hx).1
  · -- The turn adds no countdown, so there is none among the new notices.
    have hsame := countdowns_take he ht
    rw [countdowns, hns, List.filterMap_append] at hsame
    have hnil : ns.filterMap Notice.countdown? = [] :=
      List.append_left_eq_self.mp hsame
    have hmem : left ∈ ns.filterMap Notice.countdown? := List.mem_filterMap.mpr ⟨_, hleft, rfl⟩
    rw [hnil] at hmem
    cases hmem

end Census

end LanCensus
