/-
# LanCensus.Proofs.Text.Digits -- decimal digits spell a number

A text of decimal digits is read as the number that `Nat.ofDigitChars` makes of it, so what the standard
library knows about written numbers holds of the reader too. In particular a number that was written is
read again, with zeros in front or without.
-/

import LanCensus.Text.Blank
import LanCensus.Text.Number
import Mathlib.Data.Nat.Digits.Defs

namespace LanCensus.Text

theorem isDigit_iff {c : Char} : c.isDigit = true ↔ '0' ≤ c ∧ c ≤ '9' := by
  rw [Char.isDigit, Bool.and_eq_true, decide_eq_true_iff, decide_eq_true_iff]
  exact Iff.rfl

/-- The value of a decimal digit. -/
theorem digitValue?_of_isDigit {c : Char} (h : c.isDigit = true) :
    digitValue? 10 c = some (c.toNat - '0'.toNat) := by
  obtain ⟨hlow, hhigh⟩ := isDigit_iff.mp h
  have hbelow : c.toNat - '0'.toNat < 10 := by
    have : c.toNat ≤ 57 := hhigh
    show c.toNat - 48 < 10
    omega
  simp only [digitValue?, hlow, hhigh, and_self, if_true, hbelow]

theorem isBlank_of_isDigit {c : Char} (h : c.isDigit = true) : isBlank c = false := by
  obtain ⟨hlow, hhigh⟩ := isDigit_iff.mp h
  have hlow : 48 ≤ c.toNat := hlow
  have hhigh : c.toNat ≤ 57 := hhigh
  simp only [isBlank, Bool.or_eq_false_iff, Bool.and_eq_false_iff, decide_eq_false_iff_not,
    beq_eq_false_iff_ne]
  omega

/-- **`digitsFrom_eq`** — decimal digits are always read. -/
theorem digitsFrom_eq {s : List Char} (h : ∀ c ∈ s, c.isDigit = true) (acc : Nat) :
    digitsFrom 10 acc s = some (Nat.ofDigitChars 10 s acc) := by
  induction s generalizing acc with
  | nil => rw [digitsFrom, Nat.ofDigitChars_nil]
  | cons c s ih =>
      obtain ⟨hc, hs⟩ := List.forall_mem_cons.mp h
      rw [digitsFrom, digitValue?_of_isDigit hc, Option.bind_some, ih hs, Nat.ofDigitChars_cons,
        Nat.mul_comm]

/-- The number that a run of decimal digits spells. -/
theorem digits?_eq {s : List Char} (h : ∀ c ∈ s, c.isDigit = true) (hne : s ≠ []) :
    digits? 10 s = some (Nat.ofDigitChars 10 s 0) := by
  rw [digits?, if_neg (by rwa [List.isEmpty_iff]), digitsFrom_eq h]

/-- The digits of a number are digits. -/
theorem isDigit_of_mem_toDigits {n : Nat} : ∀ c ∈ Nat.toDigits 10 n, c.isDigit = true := fun _ hc =>
  Nat.isDigit_of_mem_toDigits (by decide) (by decide) hc

/-- **`digits?_toDigits`** — a number that was written is read again. -/
theorem digits?_toDigits (n : Nat) : digits? 10 (Nat.toDigits 10 n) = some n := by
  rw [digits?_eq isDigit_of_mem_toDigits Nat.toDigits_ne_nil, Nat.ofDigitChars_ten_toDigits]

/-- A positive number does not begin with a zero. -/
theorem head?_toDigits {n : Nat} (h : 0 < n) : (Nat.toDigits 10 n).head? ≠ some '0' := by
  induction n using Nat.strongRecOn with
  | ind n ih =>
      by_cases hsmall : n < 10
      · rw [Nat.toDigits_of_lt_base hsmall, List.head?_cons]
        intro hzero
        have := Nat.digitChar_eq_zero.mp (Option.some.inj hzero)
        omega
      · obtain ⟨c, ds, hds⟩ :=
          List.exists_cons_of_ne_nil (Nat.toDigits_ne_nil (n := n / 10) (b := 10))
        have hfirst := ih (n / 10) (by omega) (by omega)
        rw [hds, List.head?_cons] at hfirst
        rw [Nat.toDigits_of_base_le (by decide) (Nat.le_of_not_lt hsmall), hds, List.cons_append,
          List.head?_cons]
        exact hfirst

/-- A number has no zeros in front. -/
theorem toDigits_ne_zeros (n : Nat) (c : Char) (s : List Char) : Nat.toDigits 10 n ≠ '0' :: c :: s := by
  rcases Nat.eq_zero_or_pos n with rfl | hpos
  · rw [Nat.toDigits_zero]
    exact fun h => nomatch h
  · intro h
    apply head?_toDigits hpos
    rw [h, List.head?_cons]

/-- Digits that follow do not make a number less. -/
theorem le_ofDigitChars (s : List Char) (n : Nat) : n ≤ Nat.ofDigitChars 10 s n := by
  rw [Nat.ofDigitChars_eq_ofDigitChars_zero]
  have : 1 * n ≤ 10 ^ s.length * n := Nat.mul_le_mul_right n (Nat.one_le_pow _ _ (by decide))
  omega

/-- A digit is less than its base. -/
theorem digitValue?_lt {base : Nat} {c : Char} {d : Nat} (h : digitValue? base c = some d) : d < base := by
  have hfits : ∀ {v : Nat}, (if v < base then some v else none) = some d → d < base := fun h => by
    split at h
    · next hv =>
      cases h
      exact hv
    · cases h
  exact hfits h

/-- Only a digit has a value. -/
theorem isDigit_of_digitValue? {c : Char} {d : Nat} (h : digitValue? 10 c = some d) :
    c.isDigit = true := by
  have hsmall : ∀ {v : Nat}, 10 ≤ v → ¬ (if v < 10 then some v else none) = some d := fun hv h => by
    rw [if_neg (Nat.not_lt.mpr hv)] at h
    cases h
  by_cases hc : '0' ≤ c ∧ c ≤ '9'
  · exact isDigit_iff.mpr hc
  · -- Letters stand for ten and more, and all other characters for the base itself.
    unfold digitValue? at h
    simp only [if_neg hc] at h
    split at h
    · exact (hsmall (Nat.le_add_left 10 _) h).elim
    · split at h
      · exact (hsmall (Nat.le_add_left 10 _) h).elim
      · exact (hsmall (Nat.le_refl 10) h).elim

/-- What is read as a run of digits consists of digits. -/
theorem isDigit_of_digitsFrom {s : List Char} {acc n : Nat} (h : digitsFrom 10 acc s = some n) :
    ∀ c ∈ s, c.isDigit = true := by
  induction s generalizing acc with
  | nil => exact nofun
  | cons c s ih =>
      obtain ⟨d, hd, hmore⟩ := Option.bind_eq_some_iff.mp h
      exact List.forall_mem_cons.mpr ⟨isDigit_of_digitValue? hd, ih hmore⟩

theorem digitChar_of_isDigit {c : Char} (h : c.isDigit = true) :
    (c.toNat - '0'.toNat).digitChar = c ∧ c.toNat - '0'.toNat < 10 := by
  obtain ⟨hlow, hhigh⟩ := isDigit_iff.mp h
  have hlow : 48 ≤ c.toNat := hlow
  have hhigh : c.toNat ≤ 57 := hhigh
  have hten : c.toNat - '0'.toNat < 10 := by
    show c.toNat - 48 < 10
    omega
  refine ⟨Char.toNat_inj.mp ?_, hten⟩
  rw [Nat.toNat_digitChar_of_lt_ten hten]
  show 48 + (c.toNat - 48) = c.toNat
  omega

/-- Digits that follow a positive number are written behind it. -/
theorem toDigits_ofDigitChars_of_pos {s : List Char} (h : ∀ c ∈ s, c.isDigit = true) {n : Nat}
    (hn : 0 < n) : Nat.toDigits 10 (Nat.ofDigitChars 10 s n) = Nat.toDigits 10 n ++ s := by
  induction s generalizing n with
  | nil => rw [Nat.ofDigitChars_nil, List.append_nil]
  | cons c s ih =>
      obtain ⟨hc, hs⟩ := List.forall_mem_cons.mp h
      obtain ⟨hchar, hten⟩ := digitChar_of_isDigit hc
      rw [Nat.ofDigitChars_cons, ih hs (by omega), ← Nat.toDigits_append_toDigits (by decide) hn hten,
        Nat.toDigits_of_lt_base hten, hchar, List.append_assoc, List.singleton_append]

/-- **`toDigits_of_digits?`** — a number that is read from a text without zeros in front is written with
that text again. -/
theorem toDigits_of_digits? {s : List Char} {n : Nat} (h : digits? 10 s = some n)
    (hzero : s.length > 1 → s.head? ≠ some '0') : Nat.toDigits 10 n = s := by
  cases s with
  | nil => cases h
  | cons c s =>
      have hdigits := isDigit_of_digitsFrom (show digitsFrom 10 0 (c :: s) = some n from h)
      obtain rfl := Option.some.inj ((digits?_eq hdigits (List.cons_ne_nil c s)).symm.trans h)
      obtain ⟨hc, hs⟩ := List.forall_mem_cons.mp hdigits
      obtain ⟨hchar, hten⟩ := digitChar_of_isDigit hc
      rw [Nat.ofDigitChars_cons, Nat.mul_zero, Nat.zero_add]
      rcases Nat.eq_zero_or_pos (c.toNat - '0'.toNat) with hnull | hpos
      · rw [hnull] at hchar
        -- A zero in front stands alone.
        cases s with
        | nil => rw [hnull, Nat.ofDigitChars_nil, Nat.toDigits_zero, ← hchar]; rfl
        | cons e s => exact (hzero (by simp) (by rw [List.head?_cons, ← hchar]; rfl)).elim
      · rw [toDigits_ofDigitChars_of_pos hs hpos, Nat.toDigits_of_lt_base hten, hchar,
          List.singleton_append]

/-- A run of digits spells a number of so many digits. -/
theorem digitsFrom_lt {base : Nat} {s : List Char} {acc n : Nat} (h : digitsFrom base acc s = some n) :
    n < (acc + 1) * base ^ s.length := by
  induction s generalizing acc with
  | nil =>
      cases h
      simp
  | cons c s ih =>
      obtain ⟨d, hd, hmore⟩ := Option.bind_eq_some_iff.mp h
      have hlt := digitValue?_lt hd
      calc n < (acc * base + d + 1) * base ^ s.length := ih hmore
        _ ≤ ((acc + 1) * base) * base ^ s.length :=
          Nat.mul_le_mul_right _ (by rw [Nat.succ_mul]; omega)
        _ = (acc + 1) * base ^ (c :: s).length := by
          rw [List.length_cons, Nat.pow_succ', Nat.mul_assoc]

theorem digits?_lt {base : Nat} {s : List Char} {n : Nat} (h : digits? base s = some n) :
    n < base ^ s.length := by
  unfold digits? at h
  split at h
  · cases h
  · simpa using digitsFrom_lt h

end LanCensus.Text
