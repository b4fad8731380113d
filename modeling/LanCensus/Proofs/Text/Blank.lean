/-
# LanCensus.Proofs.Text.Blank -- what trimming leaves

A text is bare if it neither begins nor ends with a blank. Trimming makes every text bare and leaves a bare
one as it is (`trim_eq_self_iff`). Nothing is left of a text exactly if it is blank all through
(`trim_eq_nil_iff`). What trimming takes away is blank (`exists_trim`), so no text without blanks is lost with
it (`infix_blank_append`, `infix_append_blank`).
-/

import LanCensus.Text.Blank
import Mathlib.Data.List.DropRight

namespace LanCensus.Text

variable {c : Char} {s t mid lead trail w : List Char}

/-- **`IsBare s`** — the text neither begins nor ends with a blank. -/
structure IsBare (s : List Char) : Prop where
  head : ∀ c ∈ s.head?, isBlank c = false
  last : ∀ c ∈ s.getLast?, isBlank c = false

theorem isBlank_of_head?_trimStart {c : Char} (h : (trimStart s).head? = some c) : isBlank c = false := by
  have hhead := List.head?_dropWhile_not isBlank s
  rwa [show (s.dropWhile isBlank).head? = some c from h] at hhead

/-- A text is blanks and then what does not begin with a blank. -/
theorem exists_trimStart (s : List Char) : ∃ blanks rest, allBlank blanks = true ∧
    (∀ c ∈ (rest : List Char).head?, isBlank c = false) ∧ s = blanks ++ rest := by
  refine ⟨s.takeWhile isBlank, trimStart s, List.all_takeWhile, ?_, ?_⟩
  · intro c hc
    exact isBlank_of_head?_trimStart hc
  · exact List.takeWhile_append_dropWhile.symm

/-- What is trimmed begins as the text does without its leading blanks. -/
theorem trim_prefix (s : List Char) : trim s <+: trimStart s := List.rdropWhile_prefix _ _

theorem isBare_trim (s : List Char) : IsBare (trim s) where
  head c hc := by
    obtain ⟨rest, hrest⟩ := List.head?_eq_some_iff.mp hc
    obtain ⟨more, hmore⟩ := trim_prefix s
    refine isBlank_of_head?_trimStart (s := s) ?_
    rw [← hmore, hrest, List.cons_append, List.head?_cons]
  last c hc := by
    obtain ⟨hne, hlast⟩ := List.mem_getLast?_eq_getLast hc
    rw [hlast, ← Bool.not_eq_true]
    exact List.rdropWhile_last_not _ _ hne

/-- **`trim_eq_self_iff`** — bare texts are those that trimming leaves as they are. -/
theorem trim_eq_self_iff : trim s = s ↔ IsBare s := by
  constructor
  · intro h
    rw [← h]
    exact isBare_trim s
  · intro h
    have hstart : trimStart s = s := by
      refine List.dropWhile_eq_self_iff.mpr fun hlength => ?_
      rw [Bool.not_eq_true]
      exact h.head _ (by rw [List.head?_eq_getElem?, List.getElem?_eq_getElem hlength]; rfl)
    rw [trim, hstart]
    refine List.rdropWhile_eq_self_iff.mpr fun hne => ?_
    rw [Bool.not_eq_true]
    exact h.last _ (List.getLast?_eq_some_getLast hne)

/-- **`trim_eq_nil_iff`** — nothing is left of blank texts. -/
theorem trim_eq_nil_iff : trim s = [] ↔ allBlank s = true := by
  rw [← trimStart_eq_nil_iff]
  refine List.rdropWhile_eq_nil_iff.trans ⟨fun h => ?_, fun h => by simp [h]⟩
  cases hstart : trimStart s with
  | nil => rfl
  | cons c rest =>
      have hblank := h c (hstart ▸ List.mem_cons_self)
      rw [isBlank_of_head?_trimStart (by rw [hstart, List.head?_cons])] at hblank
      cases hblank

/-- A text that begins with something else than a blank is not blank. -/
theorem allBlank_eq_false (hs : s ≠ []) (hhead : ∀ c ∈ s.head?, isBlank c = false) : allBlank s = false := by
  cases s with
  | nil => exact absurd rfl hs
  | cons c rest => rw [allBlank, List.all_cons, hhead c rfl, Bool.false_and]

theorem trimmed_eq_empty_iff {t : String} : trimmed t = "" ↔ allBlank t.toList = true := by
  rw [← trim_eq_nil_iff, trimmed]
  exact String.ofList_eq_empty_iff

/-- Trimming takes blanks from both ends. -/
theorem exists_trim (s : List Char) :
    ∃ lead trail, allBlank lead = true ∧ allBlank trail = true ∧ s = lead ++ trim s ++ trail := by
  refine ⟨s.takeWhile isBlank, ((trimStart s).reverse.takeWhile isBlank).reverse, List.all_takeWhile, ?_, ?_⟩
  · rw [allBlank, List.all_reverse]
    exact List.all_takeWhile
  · have hend : trim s ++ ((trimStart s).reverse.takeWhile isBlank).reverse = trimStart s := by
      rw [trim, dropEndWhile, ← List.reverse_append, List.takeWhile_append_dropWhile, List.reverse_reverse]
    rw [List.append_assoc, hend]
    exact List.takeWhile_append_dropWhile.symm

/-- What is taken from the end is the longest run there. -/
theorem dropEndWhile_append {p : Char → Bool} (hs : ∀ c ∈ s.getLast?, p c = false)
    (ht : ∀ c ∈ t, p c = true) : dropEndWhile p (s ++ t) = s := by
  have hself : dropEndWhile p s = s := by
    apply List.rdropWhile_eq_self_iff.mpr
    intro hne
    rw [Bool.not_eq_true]
    exact hs _ (List.getLast?_eq_some_getLast hne)
  have hrun : ∀ c ∈ t.reverse, p c = true := by simpa using ht
  rw [dropEndWhile, List.reverse_append, List.dropWhile_append_of_pos hrun]
  exact hself

/-- **`trim_append`** — trimming takes all the blanks that stand around a bare text, and stops there. -/
theorem trim_append (hlead : allBlank lead = true) (htrail : allBlank trail = true) (h : IsBare s) :
    trim (lead ++ s ++ trail) = s := by
  have hblank : ∀ c ∈ lead, isBlank c = true := List.all_eq_true.mp hlead
  cases s with
  | nil =>
      apply trim_eq_nil_iff.mpr
      rw [allBlank, List.all_append, List.append_nil, Bool.and_eq_true]
      exact ⟨hlead, htrail⟩
  | cons c s =>
      have hstart : trimStart (lead ++ (c :: s) ++ trail) = c :: s ++ trail := by
        have hc : ¬ isBlank c = true := by simp [h.head c rfl]
        rw [trimStart, List.append_assoc, List.dropWhile_append_of_pos hblank, List.cons_append,
          List.dropWhile_cons_of_neg hc]
      rw [trim, hstart]
      exact dropEndWhile_append h.last (List.all_eq_true.mp htrail)

/-! ## Blanks around a text -/

/-- What begins without a blank does not begin in the blanks in front. -/
theorem prefix_of_prefix_blank_append (hw : ∀ c ∈ w, isBlank c = false) (h : allBlank lead = true)
    (hbegins : w <+: lead ++ s) : w <+: s := by
  cases lead with
  | nil => exact hbegins
  | cons c lead =>
      cases w with
      | nil => exact List.nil_prefix
      | cons d w =>
          obtain ⟨rfl, -⟩ := List.cons_prefix_cons.mp hbegins
          have hblank := hw d List.mem_cons_self
          rw [(Bool.and_eq_true_iff.mp h).1] at hblank
          cases hblank

theorem prefix_append_blank (hw : ∀ c ∈ w, isBlank c = false) (h : allBlank trail = true) :
    w <+: s ++ trail ↔ w <+: s := by
  induction trail generalizing s with
  | nil => rw [List.append_nil]
  | cons c trail ih =>
      obtain ⟨hc, htrail⟩ := Bool.and_eq_true_iff.mp h
      rw [List.append_cons, ih htrail, List.prefix_concat_iff, or_iff_right_iff_imp]
      rintro rfl
      have hblank := hw c (by simp)
      rw [hc] at hblank
      cases hblank

theorem infix_blank_append (hw : ∀ c ∈ w, isBlank c = false) (h : allBlank lead = true) :
    w <:+: lead ++ s ↔ w <:+: s := by
  induction lead with
  | nil => rfl
  | cons c lead ih =>
      obtain ⟨hc, hlead⟩ := Bool.and_eq_true_iff.mp h
      rw [List.cons_append, List.infix_cons_iff, ih hlead, or_iff_right_iff_imp]
      intro hbegins
      have hblank : allBlank [c] = true := by rw [allBlank, List.all_cons, hc, List.all_nil, Bool.true_and]
      exact (ih hlead).mp (prefix_of_prefix_blank_append hw hblank hbegins).isInfix

theorem infix_append_blank (hw : ∀ c ∈ w, isBlank c = false) (h : allBlank trail = true) :
    w <:+: s ++ trail ↔ w <:+: s := by
  rw [← List.reverse_infix, List.reverse_append,
    infix_blank_append (by simpa using hw) (by simpa [allBlank] using h), List.reverse_infix]

theorem occursIn_iff : occursIn w s = true ↔ w <:+: s := by
  induction s with
  | nil => simp [occursIn]
  | cons c s ih => rw [occursIn, Bool.or_eq_true, ih, List.infix_cons_iff, List.isPrefixOf_iff_prefix]

/-! ## The ends of a text -/

theorem isBare_congr (hhead : s.head? = t.head?) (hlast : s.getLast? = t.getLast?) :
    IsBare s ↔ IsBare t :=
  ⟨fun h => ⟨hhead ▸ h.head, hlast ▸ h.last⟩, fun h => ⟨hhead ▸ h.head, hlast ▸ h.last⟩⟩

/-- Only the outer pieces of a text that is put together decide whether it is bare. -/
theorem isBare_append (hs : s ≠ []) (ht : t ≠ []) :
    IsBare (s ++ mid ++ t) ↔ (∀ c ∈ s.head?, isBlank c = false) ∧ ∀ c ∈ t.getLast?, isBlank c = false := by
  have hhead : (s ++ mid ++ t).head? = s.head? := by
    rw [List.append_assoc, List.head?_append_of_ne_nil _ hs]
  have hlast : (s ++ mid ++ t).getLast? = t.getLast? := List.getLast?_append_of_ne_nil _ ht
  exact ⟨fun h => ⟨hhead ▸ h.head, hlast ▸ h.last⟩, fun h => ⟨hhead ▸ h.1, hlast ▸ h.2⟩⟩

end LanCensus.Text
