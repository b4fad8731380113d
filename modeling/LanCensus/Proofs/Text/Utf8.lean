/-
# LanCensus.Proofs.Text.Utf8 -- a text survives its bytes

The bytes of a character are read as that character, whatever follows them (`next_encodeChar`): the
first byte says how many follow, each of them carries six bits, and the bounds on the second byte let
through every character that there is. So the bytes of a text are read as the text.

No character reaches over an ASCII byte, not even a wrong one, so bytes may as well be cut into lines first and
read line by line (`decode?_append`).
-/

import LanCensus.Text.Utf8

namespace LanCensus.Text.Utf8

/-- The number of a character is no surrogate, and not too great. -/
theorem char_bounds (c : Char) : c.toNat < 0xD800 ∨ 0xDFFF < c.toNat ∧ c.toNat < 0x110000 := c.valid

/-- A following byte carries the last six bits of a number. -/
theorem takeTails_cons {n low high : Nat} (k : Nat) (rest : List UInt8)
    (hlow : low ≤ 0x80 + n % 64) (hhigh : 0x80 + n % 64 ≤ high) :
    takeTails (k + 1) low high (n / 64) ((0x80 + n % 64).toUInt8 :: rest) =
      takeTails k 0x80 0xBF n rest := by
  have hbyte : (0x80 + n % 64).toUInt8.toNat = 0x80 + n % 64 :=
    UInt8.toNat_ofNat_of_lt' (show 0x80 + n % 64 < 256 by omega)
  have hbits : n / 64 * 64 + (0x80 + n % 64 - 0x80) = n := by omega
  rw [takeTails, hbyte, if_pos ⟨hlow, hhigh⟩, hbits]

/-- A first byte and the bits that follow it make a character. -/
theorem next_of_tails {k tails low high bits : Nat} {c : Char} {bytes rest : List UInt8}
    (hk : k < 256) (hl : lead? k = some ⟨tails, low, high, bits⟩)
    (htails : takeTails tails low high bits bytes = (some c.toNat, rest)) :
    next k.toUInt8 bytes = (some c, rest) := by
  have hnat : k.toUInt8.toNat = k := UInt8.toNat_ofNat_of_lt' hk
  rw [next, hnat, hl]
  simp only [htails, Option.map_some, Char.ofNat_toNat]

/-- The first of two bytes. -/
theorem lead?_two {n : Nat} (hlow : 0x80 ≤ n) (hhigh : n < 0x800) :
    lead? (0xC0 + n / 64) = some ⟨1, 0x80, 0xBF, n / 64⟩ := by
  rw [lead?, if_neg (by omega), if_neg (by omega), if_pos (by omega), Nat.add_sub_cancel_left]

/-- The first of three bytes lets the second one through. -/
theorem lead?_three {n : Nat} (hlow : 0x800 ≤ n) (hhigh : n < 0x10000)
    (hpair : n < 0xD800 ∨ 0xDFFF < n) :
    ∃ low high, lead? (0xE0 + n / 4096) = some ⟨2, low, high, n / 4096⟩ ∧
      low ≤ 0x80 + n / 64 % 64 ∧ 0x80 + n / 64 % 64 ≤ high := by
  unfold lead?
  rw [if_neg (by omega), if_neg (by omega), if_neg (by omega)]
  by_cases hfirst : n / 4096 = 0
  · exact ⟨0xA0, 0xBF, by rw [if_pos (by omega), hfirst], by omega, by omega⟩
  rw [if_neg (by omega)]
  by_cases hlast : n / 4096 = 13
  · exact ⟨0x80, 0x9F, by rw [if_pos (by omega), hlast], by omega, by omega⟩
  · refine ⟨0x80, 0xBF, ?_, by omega, by omega⟩
    rw [if_neg (by omega), if_pos (by omega), Nat.add_sub_cancel_left]

/-- The first of four bytes lets the second one through. -/
theorem lead?_four {n : Nat} (hlow : 0x10000 ≤ n) (hhigh : n < 0x110000) :
    ∃ low high, lead? (0xF0 + n / 262144) = some ⟨3, low, high, n / 262144⟩ ∧
      low ≤ 0x80 + n / 4096 % 64 ∧ 0x80 + n / 4096 % 64 ≤ high := by
  unfold lead?
  rw [if_neg (by omega), if_neg (by omega), if_neg (by omega), if_neg (by omega),
    if_neg (by omega), if_neg (by omega)]
  by_cases hfirst : n / 262144 = 0
  · exact ⟨0x90, 0xBF, by rw [if_pos (by omega), hfirst], by omega, by omega⟩
  rw [if_neg (by omega)]
  by_cases hlast : n / 262144 = 4
  · refine ⟨0x80, 0x8F, ?_, by omega, by omega⟩
    rw [if_neg (by omega), if_pos (by omega), hlast]
  · refine ⟨0x80, 0xBF, ?_, by omega, by omega⟩
    rw [if_pos (by omega), Nat.add_sub_cancel_left]

/-- **`next_encodeChar`** — a character is read from its bytes. -/
theorem next_encodeChar (c : Char) (rest : List UInt8) :
    ∃ b bytes, encodeChar c ++ rest = b :: bytes ∧ next b bytes = (some c, rest) := by
  have hc := char_bounds c
  have h2 : c.toNat / 4096 = c.toNat / 64 / 64 := by omega
  have h3 : c.toNat / 262144 = c.toNat / 64 / 64 / 64 := by omega
  unfold encodeChar
  by_cases hone : c.toNat < 0x80
  · simp only [hone, if_true]
    exact ⟨_, _, rfl, next_of_tails (by omega) (by rw [lead?, if_pos hone]) rfl⟩
  by_cases htwo : c.toNat < 0x800
  · simp only [hone, htwo, if_true, if_false, List.cons_append, List.nil_append]
    refine ⟨_, _, rfl, next_of_tails (by omega) (lead?_two (Nat.le_of_not_lt hone) htwo) ?_⟩
    rw [takeTails_cons 0 rest (by omega) (by omega), takeTails]
  by_cases hthree : c.toNat < 0x10000
  · simp only [hone, htwo, hthree, if_true, if_false, List.cons_append, List.nil_append]
    obtain ⟨low, high, hlead, hlow, hhigh⟩ :=
      lead?_three (Nat.le_of_not_lt htwo) hthree (by omega)
    refine ⟨_, _, rfl, next_of_tails (by omega) hlead ?_⟩
    rw [h2, takeTails_cons 1 _ hlow hhigh, takeTails_cons 0 rest (by omega) (by omega), takeTails]
  · simp only [hone, htwo, hthree, if_false, List.cons_append, List.nil_append]
    obtain ⟨low, high, hlead, hlow, hhigh⟩ := lead?_four (Nat.le_of_not_lt hthree) (by omega)
    refine ⟨_, _, rfl, next_of_tails (by omega) hlead ?_⟩
    rw [h2] at hlow hhigh ⊢
    rw [h3, takeTails_cons 2 _ hlow hhigh, takeTails_cons 1 _ (by omega) (by omega),
      takeTails_cons 0 rest (by omega) (by omega), takeTails]

theorem scan_encode (s : List Char) : scan (encode s) = s.map some := by
  induction s with
  | nil => rw [encode, List.flatMap_nil, scan, List.map_nil]
  | cons c s ih =>
      obtain ⟨b, bytes, hbytes, hnext⟩ := next_encodeChar c (encode s)
      rw [encode, List.flatMap_cons, ← encode, hbytes, scan, hnext, ih, List.map_cons]

/-- **`decode?_encode`** — a text is read from its bytes. -/
theorem decode?_encode (s : List Char) : decode? (encode s) = some s := by
  rw [decode?, scan_encode]
  induction s with
  | nil => rfl
  | cons c s ih =>
      rw [List.map_cons, List.mapM_cons, ih]
      rfl

theorem decode?_nil : decode? [] = some [] := decode?_encode []

theorem string?_ofString (s : String) : string? (ofString s) = some s := by
  rw [string?, ofString, decode?_encode, Option.map_some, String.ofList_toList]

/-! ## Line feeds -/

/-- What follows the first byte of a character is never ASCII. -/
theorem lead?_low {b : Nat} {l : Lead} (h : lead? b = some l) : l.tails = 0 ∨ 0x80 ≤ l.low := by
  grind [lead?]

theorem takeTails_append {b : UInt8} (hb : b.toNat < 0x80) {n low : Nat} (hlow : n = 0 ∨ 0x80 ≤ low)
    (high bits : Nat) (bytes rest : List UInt8) :
    takeTails n low high bits (bytes ++ b :: rest) =
      ((takeTails n low high bits bytes).1, (takeTails n low high bits bytes).2 ++ b :: rest) := by
  induction n generalizing low high bits bytes with
  | zero => rfl
  | succ n ih =>
      have hlow : 0x80 ≤ low := hlow.resolve_left (Nat.succ_ne_zero n)
      cases bytes with
      | nil =>
          have hstop : ¬ (low ≤ b.toNat ∧ b.toNat ≤ high) := fun h => by omega
          have hnone : takeTails (n + 1) low high bits (b :: rest) = (none, b :: rest) := if_neg hstop
          rw [List.nil_append, hnone]
          rfl
      | cons d bytes =>
          rw [List.cons_append, takeTails, takeTails]
          split
          · exact ih (.inr (Nat.le_refl _)) _ _ _
          · rfl

theorem next_append {b : UInt8} (hb : b.toNat < 0x80) (d : UInt8) (bytes rest : List UInt8) :
    next d (bytes ++ b :: rest) = ((next d bytes).1, (next d bytes).2 ++ b :: rest) := by
  unfold next
  cases hl : lead? d.toNat with
  | none => rfl
  | some l =>
      simp only [takeTails_append hb (lead?_low hl)]

/-- An ASCII byte stands for itself, and no character reaches over it. -/
theorem scan_append {b : UInt8} (hb : b.toNat < 0x80) (bytes rest : List UInt8) :
    scan (bytes ++ b :: rest) = scan bytes ++ some (Char.ofNat b.toNat) :: scan rest := by
  induction bytes using scan.induct with
  | case1 =>
      have hlead : lead? b.toNat = some ⟨0, 0, 0, b.toNat⟩ := if_pos hb
      have hnext : next b rest = (some (Char.ofNat b.toNat), rest) := by
        unfold next
        rw [hlead]
        rfl
      have hnil : scan [] = [] := by rw [scan]
      rw [hnil, List.nil_append, List.nil_append, scan, hnext]
  | case2 d bytes ih =>
      rw [List.cons_append, scan, next_append hb, ih, scan, List.cons_append]

/-- **`decode?_append`** — a byte text is read line by line. -/
theorem decode?_append (bytes rest : List UInt8) : decode? (bytes ++ 0x0A :: rest) =
    (decode? bytes).bind fun s => (decode? rest).map fun t => s ++ '\n' :: t := by
  have hfeed : Char.ofNat (0x0A : UInt8).toNat = '\n' := rfl
  rw [decode?, scan_append (by decide), hfeed, List.mapM_append]
  cases hs : (scan bytes).mapM id <;> cases ht : (scan rest).mapM id <;> simp [decode?, hs, ht]

end LanCensus.Text.Utf8
