/-
# LanCensus.Proofs.Detect.Spacing -- words that are written together, told apart

The name in a type is a row of words without blanks between them. Two words meet where a capital letter
follows a small one or a digit; a text has only one division into words at these seams (`IsDivision`,
`isDivision_iff`). `spaced` puts one blank into each seam and changes nothing else, so the text with blanks is
the words with a blank between any two of them (`spaced_eq_intercalate`).

A blank is neither a small nor a capital letter. So a seam with a blank in it is none any more, and there is
nothing to tell apart a second time (`spaced_spaced`).
-/

import LanCensus.Proofs.Detect.Description
import Mathlib.Data.List.SplitBy

namespace LanCensus.Detect

open Text (allBlank isBlank isLower isUpper)

variable {b : Char} {s t w : List Char} {words : List (List Char)} {small : Bool}

/-! ## Seams -/

/-- A small letter or an ASCII digit. -/
def isSmall (c : Char) : Bool := isLower c || c.isDigit

/-- **`IsSeam a b`** — two words meet between the neighbours `a` and `b`: a small letter or a digit, and then a
capital letter. -/
def IsSeam (a b : Char) : Prop := isSmall a = true ∧ isUpper b = true

instance (a b : Char) : Decidable (IsSeam a b) := inferInstanceAs (Decidable (_ ∧ _))

/-- **`IsDivision words s`** — the text is these words in a row, none of them empty. There is no seam within a
word, and one between any word and the next. -/
structure IsDivision (words : List (List Char)) (s : List Char) : Prop where
  whole : words.flatten = s
  said : [] ∉ words
  seamless : ∀ w ∈ words, w.IsChain fun a b => ¬ IsSeam a b
  parted : words.IsChain fun v w => ∃ hv hw, IsSeam (v.getLast hv) (w.head hw)

/-- The words of a text: its longest pieces without a seam. -/
def wordsOf (s : List Char) : List (List Char) := s.splitBy fun a b => decide (¬ IsSeam a b)

/-- **`isDivision_iff`** — a text has one division into words. -/
theorem isDivision_iff : IsDivision words s ↔ words = wordsOf s := by
  rw [eq_comm, wordsOf, List.splitBy_eq_iff]
  simp only [decide_eq_true_eq, decide_eq_false_iff_not, not_not]
  constructor
  · intro h
    exact ⟨h.whole.symm, h.said, h.seamless, h.parted⟩
  · rintro ⟨hwhole, hsaid, hseamless, hparted⟩
    exact ⟨hwhole.symm, hsaid, hseamless, hparted⟩

/-! ## One blank for each seam -/

/-- Within a word nothing changes, and what follows the word goes by its last letter. -/
theorem spacedFrom_append (hw : w ≠ []) (hseamless : w.IsChain fun a b => ¬ IsSeam a b)
    (hbegins : ¬ (small = true ∧ isUpper (w.head hw) = true)) (t : List Char) :
    spacedFrom small (w ++ t) = w ++ spacedFrom (isSmall (w.getLast hw)) t := by
  induction w generalizing small with
  | nil => exact absurd rfl hw
  | cons a w ih =>
      have hfirst : spacedFrom small (a :: (w ++ t)) = a :: spacedFrom (isSmall a) (w ++ t) := by
        refine if_neg fun h => hbegins ?_
        rw [Bool.and_eq_true] at h
        exact h.symm
      rw [List.cons_append, hfirst]
      cases w with
      | nil => rfl
      | cons b w =>
          obtain ⟨hab, hrest⟩ := List.isChain_cons_cons.mp hseamless
          rw [ih (List.cons_ne_nil b w) hrest hab, List.getLast_cons (List.cons_ne_nil b w)]
          rfl

/-- A blank is put into a seam. -/
theorem spacedFrom_true (hb : isUpper b = true) (s : List Char) :
    spacedFrom true (b :: s) = ' ' :: spaced (b :: s) := by
  simp [spaced, spacedFrom, hb]

/-- **`spaced_eq_intercalate`** — the words of a text with a blank between any two of them. -/
theorem spaced_eq_intercalate (h : IsDivision words s) : spaced s = [' '].intercalate words := by
  obtain ⟨rfl, hsaid, hseamless, hparted⟩ := h
  induction words with
  | nil => rfl
  | cons w words ih =>
      obtain ⟨hne, hsaid⟩ := not_or.mp (mt List.mem_cons.mpr hsaid)
      obtain ⟨hword, hseamless⟩ := List.forall_mem_cons.mp hseamless
      have hw : w ≠ [] := Ne.symm hne
      have hbegins : ¬ (false = true ∧ isUpper (w.head hw) = true) := nofun
      rw [List.flatten_cons, spaced, spacedFrom_append hw hword hbegins]
      cases words with
      | nil => simp [spacedFrom, List.intercalate]
      | cons v words =>
          obtain ⟨⟨_, hv, hsmall, hupper⟩, hparted⟩ := List.isChain_cons_cons.mp hparted
          obtain ⟨b, v, rfl⟩ := List.exists_cons_of_ne_nil hv
          have hnext : spacedFrom true ((b :: v) :: words).flatten = ' ' :: spaced ((b :: v) :: words).flatten :=
            spacedFrom_true hupper _
          rw [hsmall, hnext, ih hsaid hseamless hparted]
          simp [List.intercalate]

/-! ## Without the blanks -/

/-- Whatever does not look at blanks finds the same characters as before. -/
theorem filter_spacedFrom {p : Char → Bool} (hp : p ' ' = false) (small : Bool) (s : List Char) :
    (spacedFrom small s).filter p = s.filter p := by
  induction s generalizing small with
  | nil => rfl
  | cons c rest ih =>
      unfold spacedFrom
      split <;> simp only [List.filter_cons, ih, hp, Bool.false_eq_true, if_false]

/-- A text without characters of some kind comes back if all of that kind, blanks included, are deleted. -/
theorem filter_spaced_eq_self {p : Char → Bool} (hp : p ' ' = false) (hs : ∀ c ∈ s, p c = true) :
    (spaced s).filter p = s :=
  (filter_spacedFrom hp false s).trans (List.filter_eq_self.mpr hs)

/-- No seam is left. -/
theorem spacedFrom_spacedFrom (small : Bool) (s : List Char) :
    spacedFrom small (spacedFrom small s) = spacedFrom small s := by
  have hcapital : isUpper ' ' = false := by decide +kernel
  have hsmall : (isLower ' ' || ' '.isDigit) = false := by decide +kernel
  induction s generalizing small with
  | nil => rfl
  | cons c rest ih =>
      by_cases hseam : (isUpper c && small) = true
      · simp only [spacedFrom, hseam, hcapital, hsmall, ih, if_true, Bool.false_and, Bool.and_false,
          Bool.false_eq_true, if_false]
      · simp only [spacedFrom, hseam, ih, Bool.false_eq_true, if_false]

theorem spaced_spaced (s : List Char) : spaced (spaced s) = spaced s := spacedFrom_spacedFrom false s

/-! ## The whole -/

/-- **`spaced_at_seams`** — a text has one division into words, and `spaced` writes them with single blanks
between them. Without these blanks they are the text again; so is what is left if all blanks are deleted, if
there were none. A second time changes nothing. Only blank texts become blank. -/
theorem spaced_at_seams (s : List Char) :
    (∃ words, (∀ ws, IsDivision ws s ↔ ws = words) ∧ spaced s = [' '].intercalate words ∧
      words.flatten = s) ∧
    (' ' ∉ s → (spaced s).filter (· ≠ ' ') = s) ∧
    ((∀ c ∈ s, isBlank c = false) → (spaced s).filter (fun c => !isBlank c) = s) ∧
    spaced (spaced s) = spaced s ∧
    (allBlank (spaced s) = true ↔ allBlank s = true) := by
  have hdivision : IsDivision (wordsOf s) s := isDivision_iff.mpr rfl
  refine ⟨⟨wordsOf s, fun ws => isDivision_iff, spaced_eq_intercalate hdivision, hdivision.whole⟩,
    ?_, ?_, spaced_spaced s, ?_⟩
  · intro hs
    refine filter_spaced_eq_self (by decide) fun c hc => decide_eq_true ?_
    rintro rfl
    exact hs hc
  · intro hs
    refine filter_spaced_eq_self (by decide) fun c hc => ?_
    rw [hs c hc]
    rfl
  · rw [spaced, allBlank_spacedFrom]

/-- A name of three words, the second of which ends with a digit. -/
theorem printer3D_spaced :
    ' ' ∉ "OfficePrinter3D".toList ∧
    IsDivision ["Office".toList, "Printer3".toList, "D".toList] "OfficePrinter3D".toList ∧
    spaced "OfficePrinter3D".toList = "Office Printer3 D".toList ∧
    ("Office Printer3 D".toList).filter (· ≠ ' ') = "OfficePrinter3D".toList := by
  have hblank : ' ' ∉ "OfficePrinter3D".toList := by decide
  have hdivision : IsDivision ["Office".toList, "Printer3".toList, "D".toList] "OfficePrinter3D".toList :=
    isDivision_iff.mpr (by decide +kernel)
  obtain ⟨⟨words, hunique, hspaced, -⟩, hdeleted, -⟩ := spaced_at_seams "OfficePrinter3D".toList
  have htext : spaced "OfficePrinter3D".toList = "Office Printer3 D".toList := by
    rw [hspaced, ← (hunique _).mp hdivision]
    decide
  refine ⟨hblank, hdivision, htext, ?_⟩
  rw [← htext]
  exact hdeleted hblank

end LanCensus.Detect
