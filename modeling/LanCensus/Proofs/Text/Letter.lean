/-
# LanCensus.Proofs.Text.Letter -- lower case, piece by piece

The lower case of a letter hangs on its neighbours in one place: a capital sigma at the end of a word becomes
a final one. A character that has no case and is not passed over ends a word, so the text before it and the
text after it are mapped independently of each other (`lower_append`). All blanks do so and have no small form,
which leaves the blanks around a text as they are.
-/

import LanCensus.Text.Letter
import LanCensus.Text.Blank

namespace LanCensus.Text

variable {c : Char} {lead trail : List Char}

/-- **`EndsWord c`** — the character takes no part in case distinctions and is not passed over when the case
of a neighbour is looked at. -/
structure EndsWord (c : Char) : Prop where
  uncased : isCased c = false
  seen : isCaseIgnorable c = false

theorem EndsWord.ne_sigma (h : EndsWord c) : c.toNat ≠ 0x3A3 := by
  intro hsigma
  have hcased : inRuns casedRuns 0x3A3 = true := by decide +kernel
  have huncased := h.uncased
  rw [isCased, hsigma, hcased] at huncased
  cases huncased

/-- What lies beyond the end of a word is not looked at. -/
theorem nextIsCased_append (h : EndsWord c) (s t : List Char) :
    nextIsCased (s ++ c :: t) = nextIsCased s := by
  unfold nextIsCased
  rw [List.dropWhile_append]
  cases hrest : s.dropWhile isCaseIgnorable with
  | nil => simp [h.seen, h.uncased]
  | cons d rest => rfl

theorem lowerFrom_append (h : EndsWord c) (before s t : List Char) :
    lowerFrom before (s ++ c :: t) =
      lowerFrom before s ++ lowerChar c ++ lowerFrom (c :: (s.reverse ++ before)) t := by
  induction s generalizing before with
  | nil => simp [lowerFrom, h.ne_sigma]
  | cons d s ih => simp [lowerFrom, ih, nextIsCased_append h]

theorem lowerFrom_beyond (h : EndsWord c) (before older s : List Char) :
    lowerFrom (before ++ c :: older) s = lowerFrom before s := by
  induction s generalizing before with
  | nil => rfl
  | cons d s ih =>
      have hd := ih (d :: before)
      simp only [lowerFrom, nextIsCased_append h]
      rw [← hd, List.cons_append]

/-- **`lower_append`** — a text is mapped word by word. -/
theorem lower_append (h : EndsWord c) (s t : List Char) :
    lower (s ++ c :: t) = lower s ++ lowerChar c ++ lower t := by
  rw [lower, lowerFrom_append h, ← lower, List.append_nil]
  exact congrArg _ (lowerFrom_beyond h [] s.reverse t)

theorem endsWord_space : EndsWord ' ' := ⟨by decide +kernel, by decide +kernel⟩

theorem endsWord_open : EndsWord '(' := ⟨by decide +kernel, by decide +kernel⟩

theorem endsWord_close : EndsWord ')' := ⟨by decide +kernel, by decide +kernel⟩

/-! ## Blanks -/

/-- The numbers of the blank characters. -/
def blankNumbers : List Nat :=
  [9, 10, 11, 12, 13, 0x20, 0x85, 0xA0, 0x1680, 0x2000, 0x2001, 0x2002, 0x2003, 0x2004, 0x2005, 0x2006, 0x2007,
    0x2008, 0x2009, 0x200A, 0x2028, 0x2029, 0x202F, 0x205F, 0x3000]

theorem mem_blankNumbers (h : isBlank c = true) : c.toNat ∈ blankNumbers := by
  simp only [isBlank, Bool.or_eq_true, Bool.and_eq_true, decide_eq_true_eq, beq_iff_eq] at h
  simp only [blankNumbers, List.mem_cons, List.not_mem_nil, or_false]
  omega

theorem endsWord_of_isBlank (h : isBlank c = true) : EndsWord c ∧ lowerChar c = [c] := by
  have hall : ∀ n ∈ blankNumbers, isCased (Char.ofNat n) = false ∧ isCaseIgnorable (Char.ofNat n) = false ∧
      lowerChar (Char.ofNat n) = [Char.ofNat n] := by decide +kernel
  obtain ⟨huncased, hseen, hlower⟩ := hall c.toNat (mem_blankNumbers h)
  rw [Char.ofNat_toNat] at huncased hseen hlower
  exact ⟨⟨huncased, hseen⟩, hlower⟩

theorem lower_blank_append (h : allBlank lead = true) (s : List Char) : lower (lead ++ s) = lead ++ lower s := by
  induction lead with
  | nil => rfl
  | cons c lead ih =>
      obtain ⟨hc, hlead⟩ := Bool.and_eq_true_iff.mp h
      obtain ⟨hends, hlower⟩ := endsWord_of_isBlank hc
      have hcut := lower_append hends [] (lead ++ s)
      rw [hlower, ih hlead] at hcut
      exact hcut

theorem lower_append_blank (h : allBlank trail = true) (s : List Char) : lower (s ++ trail) = lower s ++ trail := by
  cases trail with
  | nil => rw [List.append_nil, List.append_nil]
  | cons c trail =>
      obtain ⟨hc, htrail⟩ := Bool.and_eq_true_iff.mp h
      obtain ⟨hends, hlower⟩ := endsWord_of_isBlank hc
      have hrest := lower_blank_append htrail []
      rw [List.append_nil] at hrest
      rw [lower_append hends, hlower, hrest, show lower [] = [] from rfl, List.append_nil, List.append_assoc,
        List.singleton_append]

end LanCensus.Text
