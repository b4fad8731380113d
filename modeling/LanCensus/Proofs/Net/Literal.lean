/-
# LanCensus.Proofs.Net.Literal -- what address literals look like

An address literal is put together from digits, with single dots and with colons between them. So it is not
empty, has no blanks in it, and neither begins nor ends with a dot (`isTight_of_isAddressLiteral`): whatever
dots and blanks stand around a literal can be told from it.
-/

import LanCensus.Net.Address6
import LanCensus.Proofs.Net.Address

namespace LanCensus

namespace Text

/-- A character that is a digit in some base is a letter or a decimal digit. -/
theorem digitValue?_bounds {base d : Nat} {c : Char} (h : digitValue? base c = some d) :
    (48 ≤ c.toNat ∧ c.toNat ≤ 57) ∨ (97 ≤ c.toNat ∧ c.toNat ≤ 122) ∨
      (65 ≤ c.toNat ∧ c.toNat ≤ 90) := by
  by_cases hdigit : '0' ≤ c ∧ c ≤ '9'
  · exact .inl hdigit
  · by_cases hsmall : 'a' ≤ c ∧ c ≤ 'z'
    · exact .inr (.inl hsmall)
    · by_cases hcapital : 'A' ≤ c ∧ c ≤ 'Z'
      · exact .inr (.inr hcapital)
      · simp [digitValue?, hdigit, hsmall, hcapital] at h

/-- A digit of any base is neither a blank nor a dot. -/
theorem isBlank_of_digitValue? {base d : Nat} {c : Char} (h : digitValue? base c = some d) :
    isBlank c = false ∧ c ≠ '.' := by
  have hbounds := digitValue?_bounds h
  constructor
  · simp only [isBlank, Bool.or_eq_false_iff, Bool.and_eq_false_iff, decide_eq_false_iff_not,
      beq_eq_false_iff_ne]
    omega
  · rintro rfl
    simp at hbounds

theorem digitValue?_of_digitsFrom {base acc n : Nat} {s : List Char}
    (h : digitsFrom base acc s = some n) : ∀ c ∈ s, ∃ d, digitValue? base c = some d := by
  induction s generalizing acc with
  | nil => simp
  | cons c s ih =>
      obtain ⟨d, hd, hmore⟩ := Option.bind_eq_some_iff.mp h
      exact List.forall_mem_cons.mpr ⟨⟨d, hd⟩, ih hmore⟩

/-! ## Tight texts -/

/-- **`IsTight s`** — the text has no blanks, and neither begins nor ends with a dot. -/
structure IsTight (s : List Char) : Prop where
  solid : ∀ c ∈ s, isBlank c = false
  head : ∀ c ∈ s.head?, c ≠ '.'
  last : ∀ c ∈ s.getLast?, c ≠ '.'

variable {s t : List Char} {c : Char}

theorem isTight_nil : IsTight [] := ⟨by simp, by simp, by simp⟩

theorem isTight_of_forall (h : ∀ c ∈ s, isBlank c = false ∧ c ≠ '.') : IsTight s where
  solid c hc := (h c hc).1
  head c hc := (h c (List.mem_of_mem_head? hc)).2
  last c hc := (h c (List.mem_of_getLast? hc)).2

/-- Digits of any base are tight. -/
theorem isTight_of_digits? {base n : Nat} (h : digits? base s = some n) : IsTight s := by
  apply isTight_of_forall
  intro c hc
  unfold digits? at h
  split at h
  · cases h
  · obtain ⟨d, hd⟩ := digitValue?_of_digitsFrom h c hc
    exact isBlank_of_digitValue? hd

/-- Two tight texts with a mark between them, which may be a dot if none of them is empty. -/
theorem IsTight.join (hs : IsTight s) (ht : IsTight t) (hblank : isBlank c = false)
    (hdot : c = '.' → s ≠ [] ∧ t ≠ []) : IsTight (s ++ c :: t) where
  solid := by
    intro d hd
    rcases List.mem_append.mp hd with hd | hd
    · exact hs.solid d hd
    · rcases List.mem_cons.mp hd with rfl | hd
      · exact hblank
      · exact ht.solid d hd
  head := by
    cases s with
    | nil =>
        rintro d ⟨⟩ rfl
        exact (hdot rfl).1 rfl
    | cons e s => exact hs.head
  last := by
    rw [List.getLast?_append_of_ne_nil _ (List.cons_ne_nil c t)]
    cases t with
    | nil =>
        rintro d ⟨⟩ rfl
        exact (hdot rfl).2 rfl
    | cons e t =>
        rw [List.getLast?_cons_cons]
        exact ht.last

theorem IsTight.colon (hs : IsTight s) (ht : IsTight t) : IsTight (s ++ ':' :: t) :=
  hs.join ht (by decide) (by simp)

/-- Tight pieces with colons between them. -/
theorem isTight_of_splitAt (h : ∀ p ∈ splitAt ':' s, IsTight p) : IsTight s := by
  obtain ⟨p, ps, hs⟩ := List.exists_cons_of_ne_nil (splitAt_ne_nil ':' s)
  rw [hs] at h
  rw [append_of_splitAt hs]
  clear hs
  induction ps generalizing p with
  | nil =>
      rw [List.flatMap_nil, List.append_nil]
      exact h p List.mem_cons_self
  | cons q ps ih =>
      obtain ⟨hp, hps⟩ := List.forall_mem_cons.mp h
      exact hp.colon (ih q hps)

end Text

namespace Address

open Text in
/-- A dotted quad is tight. -/
theorem isTight_of_parse? {s : List Char} {a : Address} (h : parse? s = some a) : IsTight s := by
  have hdigits (n : Nat) : IsTight (Nat.toDigits 10 n) := isTight_of_digits? (digits?_toDigits n)
  have hne (n : Nat) : Nat.toDigits 10 n ≠ [] := Nat.toDigits_ne_nil
  have hdot (n : Nat) {t : List Char} (ht : IsTight t) (htne : t ≠ []) :
      IsTight (Nat.toDigits 10 n ++ '.' :: t) := (hdigits n).join ht (by decide) fun _ => ⟨hne n, htne⟩
  rw [parse?_eq_some_iff.mp h, toList_text]
  apply hdot _ _ (by simp)
  apply hdot _ _ (by simp)
  exact hdot _ (hdigits _) (hne _)

end Address

namespace Address6

open Text

variable {s before after : List Char}

theorem isTight_of_group? {n : Nat} (h : group? s = some n) : IsTight s := by
  unfold group? at h
  split at h
  · cases h
  · exact isTight_of_digits? h

theorem isTight_of_groups? {pieces : List (List Char)} {gs : List Nat} (h : groups? pieces = some gs) :
    ∀ p ∈ pieces, IsTight p := by
  induction pieces generalizing gs with
  | nil => simp
  | cons p pieces ih =>
      cases pieces with
      | nil =>
          -- The last piece is a dotted quad or a group.
          rw [List.forall_mem_singleton]
          unfold groups? at h
          split at h
          · next a ha => exact Address.isTight_of_parse? ha
          · obtain ⟨g, hg, -⟩ := Option.map_eq_some_iff.mp h
            exact isTight_of_group? hg
      | cons q pieces =>
          obtain ⟨g, hg, h⟩ := Option.bind_eq_some_iff.mp h
          obtain ⟨more, hmore, -⟩ := Option.bind_eq_some_iff.mp h
          exact List.forall_mem_cons.mpr ⟨isTight_of_group? hg, ih hmore⟩

theorem isTight_of_side? {gs : List Nat} (h : side? s = some gs) : IsTight s := by
  unfold side? at h
  split at h
  · next hempty =>
    rw [List.isEmpty_iff.mp hempty]
    exact isTight_nil
  · exact isTight_of_splitAt (isTight_of_groups? h)

theorem append_of_splitDouble (h : splitDouble s = some (before, after)) :
    s = before ++ ':' :: ':' :: after := by
  induction s generalizing before with
  | nil => cases h
  | cons c s ih =>
      unfold splitDouble at h
      split at h
      · next heq =>
        cases h
        rw [heq, List.nil_append]
      · next heq =>
        cases heq
        obtain ⟨⟨b, a⟩, hsplit, hpair⟩ := Option.map_eq_some_iff.mp h
        cases hpair
        rw [ih hsplit, List.cons_append]
      · cases h

theorem isTight_of_parse? {a : Address6} (h : parse? s = some a) : IsTight s := by
  unfold parse? at h
  split at h
  · obtain ⟨gs, hgs, -⟩ := Option.map_eq_some_iff.mp h
    obtain ⟨hgroups, -⟩ := Option.filter_eq_some_iff.mp hgs
    exact isTight_of_splitAt (isTight_of_groups? hgroups)
  · next before after hsplit =>
    dsimp only at h
    split at h
    · cases h
    · obtain ⟨front, hfront, h⟩ := Option.bind_eq_some_iff.mp h
      obtain ⟨back, hback, -⟩ := Option.bind_eq_some_iff.mp h
      rw [append_of_splitDouble hsplit]
      apply (isTight_of_side? hfront).colon
      exact isTight_nil.colon (isTight_of_side? hback)

end Address6

/-- **`isTight_of_isAddressLiteral`** — a literal has no blanks, and no dots at its ends. -/
theorem isTight_of_isAddressLiteral {s : List Char} (h : isAddressLiteral s = true) : Text.IsTight s := by
  rcases Bool.or_eq_true_iff.mp h with h | h
  · obtain ⟨a, ha⟩ := Option.isSome_iff_exists.mp h
    exact Address.isTight_of_parse? ha
  · obtain ⟨a, ha⟩ := Option.isSome_iff_exists.mp h
    exact Address6.isTight_of_parse? ha

theorem ne_nil_of_isAddressLiteral {s : List Char} (h : isAddressLiteral s = true) : s ≠ [] := by
  rintro rfl
  exact absurd h (by decide)

end LanCensus
