/-
# LanCensus.Proofs.Time.Deadline -- deadlines at the end of the range

A deadline is computed in two steps that can each fail: a span of more milliseconds than a signed 64-bit
number counts is too long, and an instant behind the last one cannot be written down. Either way the deadline
is the last instant. The first limit never decides: no span that is too long for it ends within the range, from
wherever in the range it begins (`dueAfter_eq_plus_iff`). So a deadline is the exact sum or the last instant,
whichever is earlier (`toNanos_dueAfter`), and all else follows from that.
-/

import LanCensus.Proofs.Instants

namespace LanCensus

variable {a b t u : Instant} {s s' : Span}

namespace Instant

instance (t : Instant) : Decidable t.IsPlain := inferInstanceAs (Decidable (_ < _))

/-! ## Instants as counts of nanoseconds -/

/-- Outside of leap seconds the order of instants is that of their nanoseconds. -/
theorem le_iff_toNanos (ha : a.IsPlain) (hb : b.IsPlain) : a ≤ b ↔ a.toNanos ≤ b.toNanos := by
  rw [← Instant.not_lt, ← Int.not_lt]
  exact not_congr ⟨toNanos_lt hb, lt_of_toNanos ha⟩

theorem plus_isPlain (ht : t.IsPlain) (s : Span) : (t.plus s).IsPlain := by
  rw [plus_of_isPlain ht]
  exact ofNanos_isPlain _

theorem toNanos_plus (ht : t.IsPlain) (s : Span) : (t.plus s).toNanos = t.toNanos + s.nanos := by
  rw [plus_of_isPlain ht, toNanos_ofNanos]

theorem last_isPlain : last.IsPlain := by decide

theorem le_last_iff (ha : a.IsPlain) : a ≤ last ↔ a.seconds ≤ lastSecond := by
  rw [le_iff]
  simp only [IsPlain, nanosPerSecond, last] at *
  omega

/-- What lies in the range is no later than the last instant, and no earlier than the first second. -/
theorem bounds_of_inRange (ha : a.IsPlain) (h : a.inRange = true) :
    a ≤ last ∧ firstSecond * nanosPerSecond ≤ a.toNanos := by
  simp only [inRange, Bool.and_eq_true, decide_eq_true_eq] at h
  refine ⟨(le_last_iff ha).mpr h.2, ?_⟩
  simp only [toNanos, nanosPerSecond]
  omega

end Instant

open Instant

/-! ## The two limits -/

/-- As many milliseconds as a signed 64-bit number can count, 2^63 - 1. -/
theorem longestWait_nanos : longestWait.nanos = 9223372036854775807 * nanosPerMilli := rfl

/-- A span that ends within the range is not too long. -/
theorem fits_of_plus_le_last (ht : t.IsPlain) (hr : t.inRange = true) (h : t.plus s ≤ last) :
    s.nanos ≤ longestWait.nanos := by
  rw [le_iff_toNanos (plus_isPlain ht s) last_isPlain, toNanos_plus ht] at h
  have hfirst := (bounds_of_inRange ht hr).2
  have hlast : last.toNanos = lastSecond * nanosPerSecond + 999999999 := rfl
  simp only [longestWait_nanos, nanosPerMilli, nanosPerSecond, firstSecond, lastSecond] at *
  omega

theorem dueAfter_of_plus_le_last (ht : t.IsPlain) (hr : t.inRange = true) (h : t.plus s ≤ last) :
    dueAfter t s = t.plus s := by
  rw [dueAfter, if_neg (Nat.not_lt.mpr (fits_of_plus_le_last ht hr h)),
    if_pos ((le_last_iff (plus_isPlain ht s)).mp h)]

theorem dueAfter_of_not_plus_le_last (ht : t.IsPlain) (h : ¬ t.plus s ≤ last) : dueAfter t s = last := by
  rw [le_last_iff (plus_isPlain ht s)] at h
  rw [dueAfter, if_neg h, ite_self]

/-- The deadline is the sum exactly if the sum lies in the range. -/
theorem dueAfter_eq_plus_iff (ht : t.IsPlain) (hr : t.inRange = true) :
    dueAfter t s = t.plus s ↔ t.plus s ≤ last := by
  constructor
  · intro h
    by_cases hsum : t.plus s ≤ last
    · exact hsum
    · rw [← h, dueAfter_of_not_plus_le_last ht hsum]
      exact Instant.le_refl last
  · exact dueAfter_of_plus_le_last ht hr

theorem dueAfter_isPlain (ht : t.IsPlain) (s : Span) : (dueAfter t s).IsPlain := by
  unfold dueAfter
  split
  · exact last_isPlain
  · split
    · exact plus_isPlain ht s
    · exact last_isPlain

/-- **`toNanos_dueAfter`** — a deadline is the sum or the last instant, whichever is earlier. -/
theorem toNanos_dueAfter (ht : t.IsPlain) (hr : t.inRange = true) (s : Span) :
    (dueAfter t s).toNanos = min (t.toNanos + s.nanos) last.toNanos := by
  have hsum : t.plus s ≤ last ↔ t.toNanos + s.nanos ≤ last.toNanos := by
    rw [le_iff_toNanos (plus_isPlain ht s) last_isPlain, toNanos_plus ht]
  by_cases h : t.plus s ≤ last
  · rw [dueAfter_of_plus_le_last ht hr h, toNanos_plus ht, Int.min_eq_left (hsum.mp h)]
  · rw [dueAfter_of_not_plus_le_last ht h, Int.min_eq_right]
    exact Int.le_of_not_le (mt hsum.mpr h)

/-! ## Deadlines do not go back -/

theorem le_dueAfter (ht : t.IsPlain) (hr : t.inRange = true) (s : Span) : t ≤ dueAfter t s := by
  have hlast := (le_iff_toNanos ht last_isPlain).mp (bounds_of_inRange ht hr).1
  rw [le_iff_toNanos ht (dueAfter_isPlain ht s), toNanos_dueAfter ht hr]
  omega

/-- A later beginning or a longer span leads to no earlier deadline. -/
theorem dueAfter_le_dueAfter (ht : t.IsPlain) (hr : t.inRange = true) (hu : u.IsPlain)
    (hr' : u.inRange = true) (h : t ≤ u) (hs : s.nanos ≤ s'.nanos) : dueAfter t s ≤ dueAfter u s' := by
  rw [le_iff_toNanos ht hu] at h
  rw [le_iff_toNanos (dueAfter_isPlain ht s) (dueAfter_isPlain hu s'), toNanos_dueAfter ht hr,
    toNanos_dueAfter hu hr']
  omega

theorem dueAfter_inRange (ht : t.IsPlain) (hr : t.inRange = true) (s : Span) :
    (dueAfter t s).inRange = true := by
  have hle := le_dueAfter ht hr s
  have hlast : dueAfter t s ≤ last := by
    rw [le_iff_toNanos (dueAfter_isPlain ht s) last_isPlain, toNanos_dueAfter ht hr]
    exact Int.min_le_right _ _
  rw [le_last_iff (dueAfter_isPlain ht s)] at hlast
  rw [Instant.le_iff] at hle
  simp only [inRange, Bool.and_eq_true, decide_eq_true_eq] at *
  omega

/-- **`deadline_saturates`** — from an instant of the range that lies in no leap second. Any span leads to a
deadline of this kind again, which is not before it. The deadline is the exact sum if the span counts as many
milliseconds as a signed 64-bit number can at most and the sum lies in the range, and only then; otherwise it
is the last instant. A later beginning or a longer span leads to no earlier deadline. -/
theorem deadline_saturates (ht : t.IsPlain) (hr : t.inRange = true) (s : Span) :
    ((dueAfter t s).IsPlain ∧ (dueAfter t s).inRange = true) ∧
    t ≤ dueAfter t s ∧
    ((t.plus s).IsPlain ∧ (t.plus s).toNanos = t.toNanos + s.nanos) ∧
    (dueAfter t s = t.plus s ↔ s.nanos ≤ 9223372036854775807 * nanosPerMilli ∧ t.plus s ≤ last) ∧
    (¬ (s.nanos ≤ 9223372036854775807 * nanosPerMilli ∧ t.plus s ≤ last) → dueAfter t s = last) ∧
    ∀ u s', u.IsPlain → u.inRange = true → t ≤ u → s.nanos ≤ s'.nanos →
      dueAfter t s ≤ dueAfter u s' := by
  have hfits : s.nanos ≤ 9223372036854775807 * nanosPerMilli ∧ t.plus s ≤ last ↔ t.plus s ≤ last :=
    and_iff_right_of_imp (fits_of_plus_le_last ht hr)
  rw [hfits]
  refine ⟨⟨dueAfter_isPlain ht s, dueAfter_inRange ht hr s⟩, le_dueAfter ht hr s,
    ⟨plus_isPlain ht s, toNanos_plus ht s⟩, dueAfter_eq_plus_iff ht hr,
    dueAfter_of_not_plus_le_last ht, ?_⟩
  intro u s' hu hr' h hs
  exact dueAfter_le_dueAfter ht hr hu hr' h hs

/-- A nanosecond before the last instant, a span of a nanosecond just fits; one of the greatest number of
milliseconds does not, and neither does one beyond that number. -/
theorem eve_deadline :
    let eve : Instant := ⟨lastSecond, 999999998⟩
    eve.IsPlain ∧ eve.inRange = true ∧ dueAfter eve ⟨1⟩ = eve.plus ⟨1⟩ ∧ eve.plus ⟨1⟩ = last ∧
      dueAfter eve longestWait = last ∧ dueAfter eve ⟨longestWait.nanos + 1⟩ = last ∧
      dueAfter eve ⟨1⟩ ≤ dueAfter last longestWait := by
  intro eve
  have ht : eve.IsPlain := by decide
  have hr : eve.inRange = true := by decide
  have hsum : eve.plus ⟨1⟩ = last := by decide
  refine ⟨ht, hr, ?_, hsum, ?_, ?_, ?_⟩
  · refine (deadline_saturates ht hr ⟨1⟩).2.2.2.1.mpr ⟨by decide, ?_⟩
    rw [hsum]
    exact Instant.le_refl last
  · exact (deadline_saturates ht hr longestWait).2.2.2.2.1 (by decide)
  · exact (deadline_saturates ht hr ⟨longestWait.nanos + 1⟩).2.2.2.2.1 (by decide)
  · exact (deadline_saturates ht hr ⟨1⟩).2.2.2.2.2 last longestWait last_isPlain (by decide)
      (by decide) (by decide)

end LanCensus
