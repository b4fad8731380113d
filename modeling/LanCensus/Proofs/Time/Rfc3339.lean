/-
# LanCensus.Proofs.Time.Rfc3339 -- an instant that was written is read

The text of an instant is a row of numbers of fixed widths with marks between them, so each part is read
as far as its digits go. What is read is the date, the time of day and the fraction of the instant, and
they make up the instant again if it is one that a clock can show (`Instant.IsWritable`). Nothing else is
ever read.
-/

import LanCensus.Time.Rfc3339
import LanCensus.Proofs.Text.Digits
import LanCensus.Proofs.Time.Calendar

namespace LanCensus

/-- **`IsWritable t`** — a clock can show the instant: it lies in the range of instants, and only a second
59 runs on into a leap second. -/
structure Instant.IsWritable (t : Instant) : Prop where
  inRange : t.inRange = true
  bounded : t.nanos < 2 * nanosPerSecond
  leap : nanosPerSecond ≤ t.nanos → t.seconds % 60 = 59

namespace Time

open LanCensus.Text (isBlank trimStart)

/-! ## Numbers of a fixed width -/

theorem isDigit_of_mem_padded {width n : Nat} : ∀ c ∈ padded width n, c.isDigit = true := by
  intro c hc
  rcases List.mem_append.mp hc with hc | hc
  · rw [List.eq_of_mem_replicate hc]
    rfl
  · exact Text.isDigit_of_mem_toDigits c hc

theorem padded_ne_nil (width n : Nat) : padded width n ≠ [] := fun h =>
  Nat.toDigits_ne_nil (List.append_eq_nil_iff.mp h).2

/-- Zeros in front do not change a number. -/
theorem ofDigitChars_padded (width n : Nat) : Nat.ofDigitChars 10 (padded width n) 0 = n := by
  rw [padded, Nat.ofDigitChars_append, Nat.ofDigitChars_replicate_zero, Nat.mul_zero,
    Nat.ofDigitChars_ten_toDigits]

theorem digits?_padded (width n : Nat) : Text.digits? 10 (padded width n) = some n := by
  rw [Text.digits?_eq isDigit_of_mem_padded (padded_ne_nil width n), ofDigitChars_padded]

/-- A number that fits has its width. -/
theorem length_padded {width n : Nat} (hwidth : 0 < width) (hn : n < Nat.pow 10 width) :
    (padded width n).length = width := by
  have hlength := (Nat.length_toDigits_le_iff (b := 10) (by decide) hwidth).mpr hn
  rw [padded, List.length_append, List.length_replicate]
  omega

/-- Nothing that goes on with a number is next. -/
def NoDigit (s : List Char) : Prop := ∀ c ∈ s.head?, c.isDigit = false

/-- Digits are taken as far as they go. -/
theorem takeDigits_append {ds rest : List Char} {width : Nat} (hds : ∀ c ∈ ds, c.isDigit = true)
    (hlength : ds.length ≤ width) (hrest : NoDigit rest ∨ ds.length = width) :
    takeDigits width (ds ++ rest) = (ds, rest) := by
  induction ds generalizing width with
  | nil =>
      rw [List.nil_append]
      cases width with
      | zero => rfl
      | succ width =>
          cases rest with
          | nil => rfl
          | cons c rest =>
              have hc : c.isDigit = false := (hrest.resolve_right (by simp)) c rfl
              rw [takeDigits, hc, if_neg Bool.false_ne_true]
  | cons c ds ih =>
      obtain ⟨hc, hds⟩ := List.forall_mem_cons.mp hds
      rw [List.length_cons] at hlength hrest
      obtain ⟨width, rfl⟩ := Nat.exists_eq_succ_of_ne_zero (Nat.ne_of_gt (Nat.zero_lt_of_lt hlength))
      have hmore := ih hds (Nat.le_of_succ_le_succ hlength) (hrest.imp_right Nat.succ.inj)
      rw [List.cons_append, takeDigits, if_pos hc, hmore]

/-- A number is read as far as its digits go. -/
theorem number_padded {width k n : Nat} {rest : List Char} (hlength : (padded k n).length ≤ width)
    (hrest : NoDigit rest ∨ (padded k n).length = width) :
    number width (padded k n ++ rest) = some (n, rest) := by
  rw [number, takeDigits_append isDigit_of_mem_padded hlength hrest]
  simp only [digits?_padded, Option.map_some]

/-! ## Fields and marks -/

theorem trimStart_digits {ds : List Char} (hds : ∀ c ∈ ds, c.isDigit = true) (hne : ds ≠ [])
    (rest : List Char) : trimStart (ds ++ rest) = ds ++ rest := by
  obtain ⟨c, ds, rfl⟩ := List.exists_cons_of_ne_nil hne
  rw [List.cons_append, trimStart, List.dropWhile_cons_of_neg]
  rw [Text.isBlank_of_isDigit (hds c List.mem_cons_self)]
  exact Bool.false_ne_true

/-- A field of two digits. -/
theorem field_padded {n : Nat} (hn : n < 100) (rest : List Char) :
    field 2 (padded 2 n ++ rest) = some (n, rest) := by
  have hlength : (padded 2 n).length = 2 := length_padded (by decide) hn
  rw [field, trimStart_digits isDigit_of_mem_padded (padded_ne_nil 2 n),
    number_padded hlength.le (.inr hlength)]

theorem mark_cons {c : Char} (hc : isBlank c = false) (rest : List Char) :
    mark c (c :: rest) = some rest := by
  have htrim : trimStart (c :: rest) = c :: rest :=
    List.dropWhile_cons_of_neg (by rw [hc]; exact Bool.false_ne_true)
  simp only [mark, htrim, if_true]

/-! ## Years -/

theorem noDigit_cons {c : Char} (h : c.isDigit = false) (rest : List Char) : NoDigit (c :: rest) := by
  rintro d ⟨⟩
  exact h

/-- A year with a sign takes as many digits as there are. -/
theorem number_signed {k n : Nat} {rest : List Char} (hrest : NoDigit rest) :
    number (padded k n ++ rest).length (padded k n ++ rest) = some (n, rest) :=
  number_padded (by simp) (.inl hrest)

/-- **`year_yearText`** — a year is read from its text. -/
theorem year_yearText {y : Int} (hy : y.natAbs < Text.signedBound) {rest : List Char}
    (hrest : NoDigit rest) : year (yearText y ++ rest) = some (y, rest) := by
  unfold yearText
  split_ifs with hplain hneg
  · have hlength : (padded 4 y.toNat).length = 4 := length_padded (by decide) (by simp; omega)
    have htrim := trimStart_digits isDigit_of_mem_padded (padded_ne_nil 4 y.toNat) rest
    have hread : number 4 (padded 4 y.toNat ++ rest) = some (y.toNat, rest) :=
      number_padded hlength.le (.inr hlength)
    obtain ⟨c, ds, hds⟩ := List.exists_cons_of_ne_nil (padded_ne_nil 4 y.toNat)
    have hc : c.isDigit = true := isDigit_of_mem_padded c (hds ▸ List.mem_cons_self)
    rw [hds, List.cons_append] at htrim hread ⊢
    rw [year, htrim]
    simp only
    split
    · next h =>
        cases h
        cases hc
    · next h =>
        cases h
        cases hc
    · rw [hread, Option.map_some, Int.toNat_of_nonneg hplain.1]
  · have htrim (s : List Char) : trimStart ('-' :: s) = '-' :: s := rfl
    simp only [year, List.cons_append, htrim, number_signed hrest, bind, Option.bind, if_pos hy]
    rw [Int.ofNat_natAbs_of_nonpos (Int.le_of_lt hneg), Int.neg_neg]
  · have htrim (s : List Char) : trimStart ('+' :: s) = '+' :: s := rfl
    simp only [year, List.cons_append, htrim, number_signed hrest, bind, Option.bind, if_pos hy]
    rw [Int.natAbs_of_nonneg (Int.not_lt.mp hneg)]

/-! ## Fractions -/

/-- A fraction of `k` digits. -/
theorem fraction_padded {k n : Nat} (hk : 0 < k) (hnine : k ≤ 9) (hn : n < Nat.pow 10 k)
    {rest : List Char} (hrest : NoDigit rest) :
    fraction ('.' :: (padded k n ++ rest)) = some (n * Nat.pow 10 (9 - k), rest) := by
  have hlength := length_padded hk hn
  have hafter : rest.dropWhile Char.isDigit = rest := by
    cases rest with
    | nil => rfl
    | cons c rest =>
        refine List.dropWhile_cons_of_neg ?_
        rw [hrest c rfl]
        exact Bool.false_ne_true
  rw [fraction, takeDigits_append isDigit_of_mem_padded (hlength.trans_le hnine) (.inl hrest)]
  simp only [digits?_padded, bind, Option.bind, hlength, hafter]
  rfl

/-- **`fraction_fractionText`** — a fraction is read from its text. -/
theorem fraction_fractionText {n : Nat} (hn : n < nanosPerSecond) {rest : List Char}
    (hrest : NoDigit rest) (hpoint : ∀ s, rest ≠ '.' :: s) :
    fraction (fractionText n ++ rest) = some (n, rest) := by
  have hn : n < 1000000000 := hn
  unfold fractionText
  split_ifs with hzero hmillis hmicros
  · rw [List.nil_append, hzero, fraction]
    exact hpoint
  · rw [List.cons_append, fraction_padded (by decide) (by decide) (by simp; omega) hrest]
    simp
    omega
  · rw [List.cons_append, fraction_padded (by decide) (by decide) (by simp; omega) hrest]
    simp
    omega
  · rw [List.cons_append, fraction_padded (by decide) (by decide) (by simp; omega) hrest]
    simp

/-! ## Instants -/

/-- The text of an instant as a row of numbers. -/
def rowText (date : Date) (hour minute second nanos : Nat) : List Char :=
  yearText date.year ++ '-' :: (padded 2 date.month ++ '-' :: (padded 2 date.day ++ 'T' ::
    (padded 2 hour ++ ':' :: (padded 2 minute ++ ':' :: (padded 2 second ++
      (fractionText nanos ++ ['Z']))))))

theorem format_eq (t : Instant) :
    format t = rowText (Date.ofDays (t.seconds / secondsPerDay))
      ((t.seconds % secondsPerDay).toNat / 3600) ((t.seconds % secondsPerDay).toNat / 60 % 60)
      (secondOfMinute t) (t.nanos % nanosPerSecond) := by
  simp only [format, minuteText, rowText, List.append_assoc, List.cons_append, List.nil_append]

/-- **`parse?_rowText`** — every number of a row is read. -/
theorem parse?_rowText {date : Date} {hour minute second nanos : Nat}
    (hyear : date.year.natAbs < Text.signedBound) (hmonth : date.month < 100) (hday : date.day < 100)
    (hhour : hour < 100) (hminute : minute < 100) (hsecond : second < 100)
    (hnanos : nanos < nanosPerSecond) :
    parse? (rowText date hour minute second nanos) = assemble date hour minute second nanos 0 := by
  have hdash : isBlank '-' = false := by decide
  have hcolon : isBlank ':' = false := by decide
  have hend : fraction (fractionText nanos ++ ['Z']) = some (nanos, ['Z']) :=
    fraction_fractionText hnanos (noDigit_cons (by decide) _) fun s h => by cases h
  have hoffset : offset (trimStart ['Z']) = some (0, []) := by decide
  simp only [parse?, rowText, year_yearText hyear (noDigit_cons (show '-'.isDigit = false by decide) _),
    mark_cons hdash, mark_cons hcolon, field_padded hmonth, field_padded hday, field_padded hhour,
    field_padded hminute, field_padded hsecond, hend, hoffset, bind, Option.bind]
  rfl

/-- The years of the instants in range. -/
theorem natAbs_year_lt {t : Instant} (h : t.inRange = true) :
    (Date.ofDays (t.seconds / secondsPerDay)).year.natAbs < Text.signedBound := by
  simp only [Instant.inRange, Bool.and_eq_true, decide_eq_true_iff] at h
  have hfirst : -8334601228800 ≤ t.seconds := h.1
  have hlast : t.seconds ≤ 8210266876799 := h.2
  obtain ⟨hlow, hhigh⟩ := year_ofDays (t.seconds / secondsPerDay)
  have hlow : 400 * ((t.seconds / 86400 + 719468) / 146097) ≤ _ := hlow
  have hhigh : _ ≤ 400 * ((t.seconds / 86400 + 719468) / 146097) + 400 := hhigh
  show Int.natAbs _ < 9223372036854775808
  omega

theorem month_lt (n : Int) : (Date.ofDays n).month < 100 ∧ (Date.ofDays n).day < 100 := by
  have h := isValid_ofDays n
  have hdays : daysInMonth (Date.ofDays n).year (Date.ofDays n).month ≤ 31 := by
    unfold daysInMonth
    split_ifs <;> omega
  simp only [Date.isValid, Bool.and_eq_true, decide_eq_true_iff] at h
  omega

/-- **`assemble_eq`** — date, time of day and fraction of an instant make it up. -/
theorem assemble_eq {t : Instant} (h : t.IsWritable) :
    assemble (Date.ofDays (t.seconds / secondsPerDay)) ((t.seconds % secondsPerDay).toNat / 3600)
      ((t.seconds % secondsPerDay).toNat / 60 % 60) (secondOfMinute t) (t.nanos % nanosPerSecond) 0 =
      some t := by
  obtain ⟨hrange, hbounded, hleap⟩ := h
  have hbounded : t.nanos < 2 * 1000000000 := hbounded
  have hleap : 1000000000 ≤ t.nanos → t.seconds % 60 = 59 := hleap
  -- The second of the minute is the one of the wall clock, and 60 says that it is a leap second.
  have hsecond : secondOfMinute t = (t.seconds % 60).toNat + t.nanos / 1000000000 := rfl
  have htime : isTimeOfDay ((t.seconds % secondsPerDay).toNat / 3600)
      ((t.seconds % secondsPerDay).toNat / 60 % 60) (secondOfMinute t) = true := by
    have hday : (t.seconds % secondsPerDay).toNat < 86400 := by
      show (t.seconds % 86400).toNat < 86400
      omega
    simp only [isTimeOfDay, Bool.and_eq_true, decide_eq_true_iff]
    omega
  have hwall : (⟨(Date.ofDays (t.seconds / secondsPerDay)).toDays * secondsPerDay +
      ((t.seconds % secondsPerDay).toNat / 3600 * 3600 + (t.seconds % secondsPerDay).toNat / 60 % 60 * 60 +
        min (secondOfMinute t) 59 : Nat), t.nanos % nanosPerSecond +
          if secondOfMinute t = 60 then nanosPerSecond else 0⟩ : Instant) = t := by
    rw [toDays_ofDays, hsecond]
    obtain ⟨s, n⟩ := t
    simp only at hbounded hleap
    refine Instant.mk.injEq .. ▸ ⟨?_, ?_⟩
    · show s / 86400 * 86400 + ((s % 86400).toNat / 3600 * 3600 + (s % 86400).toNat / 60 % 60 * 60 +
        min ((s % 60).toNat + n / 1000000000) 59 : Nat) = s
      omega
    · show (n % 1000000000 + if (s % 60).toNat + n / 1000000000 = 60 then 1000000000 else 0) = n
      split_ifs <;> omega
  have hoffset : decide (Int.natAbs 0 < secondsPerDay) = true := by decide
  simp only [assemble, hwall, Int.sub_zero, isValid_ofDays, htime, hrange, hoffset, Bool.and_self,
    if_true]

/-- **`parse?_format`** — an instant is read from its text. -/
theorem parse?_format {t : Instant} (h : t.IsWritable) : parse? (format t) = some t := by
  have hdate := month_lt (t.seconds / secondsPerDay)
  have hsecond : secondOfMinute t < 100 := by
    have hnanos : t.nanos < 2 * 1000000000 := h.bounded
    show (t.seconds % 60).toNat + t.nanos / 1000000000 < 100
    omega
  have hhour : (t.seconds % secondsPerDay).toNat / 3600 < 100 := by
    show (t.seconds % 86400).toNat / 3600 < 100
    omega
  rw [format_eq, parse?_rowText (natAbs_year_lt h.inRange) hdate.1 hdate.2 hhour (by omega) hsecond
    (Nat.mod_lt _ (by decide)), assemble_eq h]

/-! ## What is read can be written -/

theorem length_takeDigits (width : Nat) (s : List Char) : (takeDigits width s).1.length ≤ width := by
  induction width generalizing s with
  | zero => exact Nat.le_refl _
  | succ width ih =>
      cases s with
      | nil => exact Nat.zero_le _
      | cons c s =>
          rw [takeDigits]
          split
          · exact Nat.succ_le_succ (ih s)
          · exact Nat.zero_le _

/-- A fraction is less than a second. -/
theorem fraction_lt {s rest : List Char} {n : Nat} (h : fraction s = some (n, rest)) :
    n < nanosPerSecond := by
  unfold fraction at h
  split at h
  · next s =>
    obtain ⟨n, hn, h⟩ := Option.bind_eq_some_iff.mp h
    cases h
    have hlength := length_takeDigits 9 s
    calc n * 10 ^ (9 - (takeDigits 9 s).1.length)
        < 10 ^ (takeDigits 9 s).1.length * 10 ^ (9 - (takeDigits 9 s).1.length) :=
          Nat.mul_lt_mul_of_pos_right (Text.digits?_lt hn) (Nat.pow_pos (by decide))
      _ = nanosPerSecond := by rw [← Nat.pow_add, Nat.add_sub_cancel' hlength]
  · cases h
    decide

theorem offsetSize_emod {s rest : List Char} {off : Int} (h : offsetSize s = some (off, rest)) :
    off % 60 = 0 := by
  obtain ⟨⟨hours, _⟩, -, h⟩ := Option.bind_eq_some_iff.mp h
  obtain ⟨⟨minutes, _⟩, -, h⟩ := Option.bind_eq_some_iff.mp h
  cases h
  omega

/-- An offset is a number of minutes. -/
theorem offset_emod {s rest : List Char} {off : Int} (h : offset s = some (off, rest)) :
    off % 60 = 0 := by
  unfold offset at h
  split at h
  · cases h
    rfl
  · cases h
    rfl
  · exact offsetSize_emod h
  · split at h
    · obtain ⟨⟨n, _⟩, hn, h⟩ := Option.map_eq_some_iff.mp h
      cases h
      have := offsetSize_emod hn
      omega
    · split at h <;> cases h
      rfl
  · cases h

theorem assemble_isWritable {date : Date} {hour minute second nanos : Nat} {off : Int} {t : Instant}
    (hnanos : nanos < nanosPerSecond) (hoff : off % 60 = 0)
    (h : assemble date hour minute second nanos off = some t) : t.IsWritable := by
  have hnanos : nanos < 1000000000 := hnanos
  simp only [assemble, Option.ite_none_right_eq_some, Bool.and_eq_true, Option.some.injEq] at h
  obtain ⟨⟨⟨-, hrange⟩, -⟩, rfl⟩ := h
  refine ⟨hrange, ?_, fun hleap => ?_⟩
  · show nanos + (if second = 60 then 1000000000 else 0) < 2 * 1000000000
    split_ifs <;> omega
  · have hleap : 1000000000 ≤ nanos + (if second = 60 then 1000000000 else 0) := hleap
    show (date.toDays * 86400 + (hour * 3600 + minute * 60 + min second 59 : Nat) - off) % 60 = 59
    split_ifs at hleap with hsixty
    · subst hsixty
      omega
    · omega

/-- **`parse?_isWritable`** — an instant that was read can be written. -/
theorem parse?_isWritable {s : List Char} {t : Instant} (h : parse? s = some t) : t.IsWritable := by
  -- Only the fraction and the offset matter, which are read last.
  iterate 4 obtain ⟨_, -, h⟩ := Option.bind_eq_some_iff.mp h
  obtain ⟨⟨day, s⟩, -, h⟩ := Option.bind_eq_some_iff.mp h
  cases s with
  | nil => cases h
  | cons c s =>
      dsimp only at h
      split at h
      · iterate 6 obtain ⟨_, -, h⟩ := Option.bind_eq_some_iff.mp h
        obtain ⟨⟨nanos, _⟩, hnanos, h⟩ := Option.bind_eq_some_iff.mp h
        obtain ⟨⟨off, _⟩, hoff, h⟩ := Option.bind_eq_some_iff.mp h
        obtain ⟨-, h⟩ := Option.ite_none_right_eq_some.mp h
        exact assemble_isWritable (fraction_lt hnanos) (offset_emod hoff) h
      · cases h

end Time

end LanCensus
