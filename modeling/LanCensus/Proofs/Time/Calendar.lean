/-
# LanCensus.Proofs.Time.Calendar -- a date is the date of its day

The days of an era are counted in centuries, cycles of four years, years and days (`IsSplit`). All
centuries but the last have a day less than the cycles that they consist of, and all years but the last
of a cycle have 365 days, so a day falls into the last century, or into the last year of a cycle, when
there is no other left. From this count `Date.ofDays` finds the year by one division, and `Date.toDays`
puts it together again. The date that is found is always one that the calendar has.
-/

import LanCensus.Time.Calendar
import Mathlib.Tactic.SplitIfs

namespace LanCensus.Time

/-! ## Days of an era -/

/-- **`IsSplit n e q t u`** — day `n` of an era comes after `e` centuries, `q` cycles, `t` years and `u`
days. Only the last year of a cycle has a day 365, and only in the last century has the last cycle
one. -/
structure IsSplit (n e q t u : Nat) : Prop where
  century : e ≤ 3
  cycle : q ≤ 24
  year : t ≤ 3
  day : u ≤ 365
  leap : u = 365 → t = 3 ∧ (q ≠ 24 ∨ e = 3)
  sum : n = 36524 * e + 1461 * q + 365 * t + u

theorem exists_isSplit {n : Nat} (h : n < daysPerEra) : ∃ e q t u, IsSplit n e q t u := by
  have h : n < 146097 := h
  obtain ⟨e, r, he, hr, hlast, rfl⟩ :
      ∃ e r, e ≤ 3 ∧ r ≤ 36524 ∧ (r = 36524 → e = 3) ∧ n = 36524 * e + r := by
    by_cases hn : n = 146096
    · exact ⟨3, 36524, by omega, by omega, fun _ => rfl, by omega⟩
    · exact ⟨n / 36524, n % 36524, by omega, by omega, by omega, by omega⟩
  obtain ⟨t, u, ht, hu, hleap, hsplit⟩ :
      ∃ t u, t ≤ 3 ∧ u ≤ 365 ∧ (u = 365 → t = 3) ∧ r % 1461 = 365 * t + u := by
    by_cases hs : r % 1461 = 1460
    · exact ⟨3, 365, by omega, by omega, fun _ => rfl, by omega⟩
    · exact ⟨r % 1461 / 365, r % 1461 % 365, by omega, by omega, by omega, by omega⟩
  exact ⟨e, r / 1461, t, u, ⟨he, by omega, ht, hu, by omega, by omega⟩⟩

namespace IsSplit

variable {n e q t u : Nat}

theorem day_lt (h : IsSplit n e q t u) : n < 146097 := by
  obtain ⟨he, hq, ht, hu, hleap, rfl⟩ := h
  omega

theorem year_lt (h : IsSplit n e q t u) : 100 * e + 4 * q + t < 400 := by
  obtain ⟨he, hq, ht, -⟩ := h
  omega

/-- The division that finds the year of the era. -/
theorem yearOfEra (h : IsSplit n e q t u) :
    (n - n / 1460 + n / 36524 - n / 146096) / 365 = 100 * e + 4 * q + t := by
  obtain ⟨he, hq, ht, hu, hleap, hn⟩ := h
  have hfour : n / 1460 = 25 * e + q + if 24 * e + q + 365 * t + u < 1460 then 0 else 1 := by
    split <;> omega
  have hcentury : n / 36524 = if n = 146096 then 4 else e := by
    split <;> omega
  have hera : n / 146096 = if n = 146096 then 1 else 0 := by
    split <;> omega
  rw [hfour, hcentury, hera]
  split_ifs <;> omega

/-- The days of the years before. -/
theorem daysBefore (h : IsSplit n e q t u) :
    (100 * e + 4 * q + t) * 365 + (100 * e + 4 * q + t) / 4 - (100 * e + 4 * q + t) / 100 + u = n := by
  obtain ⟨he, hq, ht, -, -, hn⟩ := h
  have hcycle : (100 * e + 4 * q + t) / 4 = 25 * e + q := by omega
  have hcentury : (100 * e + 4 * q + t) / 100 = e := by omega
  omega

end IsSplit

/-! ## Days of a year -/

/-- The months from March on that have passed on a day of the year. -/
def monthsPassed (day : Nat) : Nat := (5 * day + 2) / 153

/-- The date of a day of a year that begins with March. -/
def dateOf (year : Int) (day : Nat) : Date :=
  let month := if monthsPassed day < 10 then monthsPassed day + 3 else monthsPassed day - 9
  ⟨if month ≤ 2 then year + 1 else year, month, day - (153 * monthsPassed day + 2) / 5 + 1⟩

variable {y : Int} {u : Nat}

/-- Until December the year is the one that began with March. -/
theorem dateOf_early (h : monthsPassed u < 10) :
    dateOf y u = ⟨y, monthsPassed u + 3, u - (153 * monthsPassed u + 2) / 5 + 1⟩ := by
  simp only [dateOf, if_pos h]
  rw [if_neg (by omega)]

/-- In January and February it is the next one. -/
theorem dateOf_late (h : 10 ≤ monthsPassed u) (hu : u ≤ 365) :
    dateOf y u = ⟨y + 1, monthsPassed u - 9, u - (153 * monthsPassed u + 2) / 5 + 1⟩ := by
  have hmonths : monthsPassed u ≤ 11 := by
    unfold monthsPassed
    omega
  simp only [dateOf, if_neg (Nat.not_lt.mpr h)]
  rw [if_pos (by omega)]

/-- **`toDays_dateOf`** — the day of a date. -/
theorem toDays_dateOf (hu : u ≤ 365) :
    (dateOf y u).toDays =
      y / 400 * daysPerEra + ((y % 400).toNat * 365 + (y % 400).toNat / 4 - (y % 400).toNat / 100 + u : Nat)
        - epochDay := by
  have hday : (153 * monthsPassed u + 2) / 5 ≤ u := by
    unfold monthsPassed
    omega
  by_cases hmonth : monthsPassed u < 10
  · rw [dateOf_early hmonth]
    simp only [Date.toDays]
    rw [if_neg (by omega), if_neg (by omega), Nat.add_sub_cancel]
    congr 3
    omega
  · rw [dateOf_late (Nat.le_of_not_lt hmonth) hu]
    have hmonths : monthsPassed u - 9 ≤ 2 := by
      unfold monthsPassed
      omega
    simp only [Date.toDays]
    rw [if_pos hmonths, if_pos hmonths, Int.add_sub_cancel, Nat.sub_add_cancel (by omega)]
    congr 3
    omega

/-- **`isValid_dateOf`** — the date of a day of a year is one of the calendar, and day 365 is one if the
next year is a leap year. -/
theorem isValid_dateOf (hu : u ≤ 365) (hleap : u = 365 → isLeapYear (y + 1) = true) :
    (dateOf y u).isValid = true := by
  by_cases hmonth : monthsPassed u < 10
  · rw [dateOf_early hmonth]
    simp only [Date.isValid, daysInMonth]
    unfold monthsPassed at *
    split_ifs <;> simp <;> omega
  · rw [dateOf_late (Nat.le_of_not_lt hmonth) hu]
    have hlast : u = 365 ∧ isLeapYear (y + 1) = true ∨ u < 365 := by
      by_cases h : u = 365
      · exact .inl ⟨h, hleap h⟩
      · exact .inr (by omega)
    simp only [Date.isValid, daysInMonth]
    unfold monthsPassed at *
    rcases hlast with ⟨rfl, hlast⟩ | hlast
    · rw [hlast]
      rfl
    · split_ifs <;> simp <;> omega

/-! ## All days -/

/-- Every day has its count: the era, and within it centuries, cycles, years and days. -/
theorem exists_count (n : Int) : ∃ (z : Int) (m e q t u : Nat),
    n + epochDay = z * daysPerEra + m ∧ IsSplit m e q t u := by
  have hbelow : ((n + epochDay) % daysPerEra).toNat < daysPerEra := by
    show ((n + 719468) % 146097).toNat < 146097
    omega
  obtain ⟨e, q, t, u, h⟩ := exists_isSplit hbelow
  refine ⟨(n + epochDay) / daysPerEra, _, e, q, t, u, ?_, h⟩
  show n + 719468 = (n + 719468) / 146097 * 146097 + (((n + 719468) % 146097).toNat : Int)
  omega

theorem era_eq {n z : Int} {m : Nat} (hn : n + epochDay = z * daysPerEra + m) (hm : m < 146097) :
    (n + epochDay) / daysPerEra = z := by
  rw [hn]
  show (z * 146097 + (m : Int)) / 146097 = z
  omega

/-- The date of a day, from its count. -/
theorem ofDays_eq {n z : Int} {m e q t : Nat} (hn : n + epochDay = z * daysPerEra + m)
    (h : IsSplit m e q t u) : Date.ofDays n = dateOf (z * 400 + (100 * e + 4 * q + t : Nat)) u := by
  have hm := h.day_lt
  have hera := era_eq hn hm
  have hday : ((n + epochDay) % daysPerEra).toNat = m := by
    rw [hn]
    show ((z * 146097 + (m : Int)) % 146097).toNat = m
    omega
  have hrest : m - (365 * (100 * e + 4 * q + t) + (100 * e + 4 * q + t) / 4
      - (100 * e + 4 * q + t) / 100) = u := by
    have := h.daysBefore
    omega
  simp only [Date.ofDays, hera, hday, h.yearOfEra, hrest]
  rfl

/-- **`toDays_ofDays`** — a day is the day of its date. -/
theorem toDays_ofDays (n : Int) : (Date.ofDays n).toDays = n := by
  obtain ⟨z, m, e, q, t, u, hn, h⟩ := exists_count n
  have hyear := h.year_lt
  have hera : (z * 400 + (100 * e + 4 * q + t : Nat) : Int) / 400 = z := by omega
  have hrest : ((z * 400 + (100 * e + 4 * q + t : Nat) : Int) % 400).toNat = 100 * e + 4 * q + t := by
    omega
  rw [ofDays_eq hn h, toDays_dateOf h.day, hera, hrest, h.daysBefore]
  omega

/-- **`isValid_ofDays`** — the date of a day is one that the calendar has. -/
theorem isValid_ofDays (n : Int) : (Date.ofDays n).isValid = true := by
  obtain ⟨z, m, e, q, t, u, hn, h⟩ := exists_count n
  rw [ofDays_eq hn h]
  refine isValid_dateOf h.day fun hu => ?_
  -- A day 365 closes a cycle, and the last cycle of a century closes it only if it is the last one.
  obtain ⟨rfl, hlast⟩ := h.leap hu
  have hcentury := h.century
  have hcycle := h.cycle
  simp only [isLeapYear, Bool.and_eq_true, Bool.or_eq_true, beq_iff_eq, bne_iff_ne]
  omega

/-- The year of a day lies in its era, or is the first one after it. -/
theorem year_ofDays (n : Int) :
    400 * ((n + epochDay) / daysPerEra) ≤ (Date.ofDays n).year ∧
      (Date.ofDays n).year ≤ 400 * ((n + epochDay) / daysPerEra) + 400 := by
  obtain ⟨z, m, e, q, t, u, hn, h⟩ := exists_count n
  have hera := era_eq hn h.day_lt
  have hyear := h.year_lt
  rw [hera, ofDays_eq hn h]
  simp only [dateOf]
  split_ifs <;> omega

end LanCensus.Time
