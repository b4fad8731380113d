/-
# LanCensus.Proofs.Instants -- the order of instants

Instants are compared by their seconds first, and a span that is not empty leads to a later instant.
A deadline lies later than the instant it is computed from, except at the end of the range.
-/

import LanCensus.Timer
import Mathlib.Logic.Basic

namespace LanCensus

namespace Instant

variable {a b c : Instant}

theorem lt_iff : a < b ↔ a.seconds < b.seconds ∨ (a.seconds = b.seconds ∧ a.nanos < b.nanos) := by
  show a.before b = true ↔ _
  simp [before]

theorem le_iff : a ≤ b ↔ a.seconds < b.seconds ∨ (a.seconds = b.seconds ∧ a.nanos ≤ b.nanos) := by
  show b.before a = false ↔ _
  rw [← Bool.not_eq_true, show b.before a = true ↔ b < a from Iff.rfl, lt_iff]
  omega

theorem not_le : ¬ a ≤ b ↔ b < a := by
  rw [le_iff, lt_iff]
  omega

theorem not_lt : ¬ a < b ↔ b ≤ a := by
  rw [le_iff, lt_iff]
  omega

theorem le_refl (a : Instant) : a ≤ a := le_iff.mpr (.inr ⟨rfl, Nat.le_refl _⟩)

theorem le_of_lt (h : a < b) : a ≤ b := by
  rw [lt_iff] at h
  rw [le_iff]
  omega

theorem lt_of_lt_of_le (h : a < b) (h' : b ≤ c) : a < c := by
  rw [lt_iff] at *
  rw [le_iff] at *
  omega

theorem le_trans (h : a ≤ b) (h' : b ≤ c) : a ≤ c := by
  rw [le_iff] at *
  omega

theorem lt_of_le_of_lt (h : a ≤ b) (h' : b < c) : a < c := by
  rw [le_iff] at h
  rw [lt_iff] at *
  omega

theorem lt_or_lt_of_ne (h : a ≠ b) : a < b ∨ b < a := by
  obtain ⟨s, n⟩ := a
  obtain ⟨s', n'⟩ := b
  simp only [ne_eq, mk.injEq] at h
  simp only [lt_iff]
  omega

/-- The later of two instants is not before the first. -/
theorem le_later (a b : Instant) : a ≤ a.later b := by
  unfold later
  split
  · next h => exact le_of_lt h
  · exact le_refl a

theorem le_later_right (a b : Instant) : b ≤ a.later b := by
  unfold later
  split
  · exact le_refl b
  · next h => exact not_lt.mp h

theorem later_eq_or (a b : Instant) : a.later b = a ∨ a.later b = b := by
  unfold later
  split
  · exact .inr rfl
  · exact .inl rfl

/-- Nanoseconds order an instant after a plain one. -/
theorem lt_of_toNanos (hb : b.IsPlain) (h : a.toNanos < b.toNanos) : a < b := by
  rw [lt_iff]
  unfold toNanos nanosPerSecond at h
  unfold IsPlain nanosPerSecond at hb
  omega

/-- A plain instant has fewer nanoseconds than a later one. -/
theorem toNanos_lt (ha : a.IsPlain) (h : a < b) : a.toNanos < b.toNanos := by
  rw [lt_iff] at h
  unfold IsPlain nanosPerSecond at ha
  unfold toNanos nanosPerSecond
  omega

theorem ofNanos_isPlain (n : Int) : (ofNanos n).IsPlain := by
  simp only [IsPlain, ofNanos, nanosPerSecond]
  omega

theorem toNanos_ofNanos (n : Int) : (ofNanos n).toNanos = n := by
  simp only [toNanos, ofNanos, nanosPerSecond]
  omega

/-- Outside of leap seconds a span counts in nanoseconds. -/
theorem plus_of_isPlain {t : Instant} (ht : t.IsPlain) (s : Span) :
    t.plus s = ofNanos (t.toNanos + s.nanos) := if_neg (Nat.not_le.mpr ht)

/-- A span that is not empty leads to a later instant. -/
theorem lt_plus (t : Instant) {s : Span} (hs : 0 < s.nanos) : t < t.plus s := by
  unfold plus
  split
  · split
    · rw [lt_iff]
      exact .inr ⟨rfl, Nat.lt_add_of_pos_right hs⟩
    · -- The span leads out of the leap second, so the seconds alone decide.
      rw [lt_iff]
      left
      simp only [ofNanos, nanosPerSecond] at *
      omega
  · refine lt_of_toNanos (ofNanos_isPlain _) ?_
    rw [toNanos_ofNanos]
    omega

/-- A longer span leads no less far. -/
theorem plus_le_plus (t : Instant) {s s' : Span} (h : s.nanos ≤ s'.nanos) :
    t.plus s ≤ t.plus s' := by
  have hof : ∀ {m n : Int}, m ≤ n → ofNanos m ≤ ofNanos n := by
    intro m n hmn
    rw [le_iff]
    simp only [ofNanos, nanosPerSecond]
    omega
  unfold plus
  split
  · split
    · split
      · rw [le_iff]
        exact .inr ⟨rfl, by simpa using h⟩
      · -- Only the longer span leads out of the leap second.
        rw [le_iff]
        left
        simp only [ofNanos, nanosPerSecond] at *
        omega
    · rw [if_neg (by omega)]
      exact hof (by omega)
  · exact hof (by omega)

end Instant

/-! ## Deadlines and ticks -/

/-- What has come to a deadline has come to the instant it stands for, or to the end of the range. -/
theorem le_of_dueAfter_le {t n : Instant} {s : Span} (h : dueAfter t s ≤ n) :
    t.plus s ≤ n ∨ Instant.last ≤ n := by
  unfold dueAfter at h
  split at h
  · exact .inr h
  · split at h
    · exact .inl h
    · exact .inr h

/-- Before the end of the range a deadline lies ahead. -/
theorem lt_dueAfter {t : Instant} {s : Span} (ht : t < Instant.last) (hs : 0 < s.nanos) :
    t < dueAfter t s := by
  unfold dueAfter
  split
  · exact ht
  · split
    · exact t.lt_plus hs
    · exact ht

/-- The next tick has no part in a leap second. -/
theorem Timer.nextTick_isPlain (due now : Instant) : (Timer.nextTick due now).IsPlain := by
  simp only [Timer.nextTick, Instant.plus]
  split
  · split
    · -- A tick is a whole second, which no leap second has room for.
      simp only [Timer.tickSpan, Span.ofSeconds, nanosPerSecond] at *
      omega
    · exact Instant.ofNanos_isPlain _
  · exact Instant.ofNanos_isPlain _

/-- A tick that was due at a plain instant is followed by one that is not due yet. -/
theorem Timer.lt_nextTick {due now : Instant} (hd : due.IsPlain) :
    now < Timer.nextTick due now := by
  refine Instant.lt_of_toNanos (Timer.nextTick_isPlain due now) ?_
  have hplus : Timer.nextTick due now = Instant.ofNanos (due.toNanos +
      (((due.spanTo now).nanos / Timer.tickSpan.nanos + 1) * Timer.tickSpan.nanos : Nat)) :=
    if_neg (Nat.not_le.mpr hd)
  rw [hplus, Instant.toNanos_ofNanos]
  simp only [Instant.spanTo, Timer.tickSpan, Span.ofSeconds, nanosPerSecond]
  omega

end LanCensus
