/-
# LanCensus.Proofs.Text.Words -- columns with blanks between them

A line of a table holds its columns one after another, with as many blanks between them as anybody likes and
perhaps more around them. Splitting it into words finds the columns again, and only what is set out so is split
into them (`words_eq_iff`). Blanks at the end change nothing (`words_append_blank`).
-/

import LanCensus.Text.Blank

namespace LanCensus.Text

variable {c : Char} {s w lead rest : List Char}

/-- **`IsWord w`** — the text is not empty and has no blanks. -/
structure IsWord (w : List Char) : Prop where
  ne_nil : w ≠ []
  solid : ∀ c ∈ w, isBlank c = false

/-- **`SetOut columns line`** — the line holds the columns, at least one blank between any two of them. -/
inductive SetOut : List (List Char) → List Char → Prop
  /-- Blanks hold no column. -/
  | blank {s : List Char} : allBlank s = true → SetOut [] s
  /-- A column at the end of the line. -/
  | last {lead w : List Char} : allBlank lead = true → IsWord w → SetOut [w] (lead ++ w)
  /-- A column and the blank that ends it. -/
  | column {lead w rest : List Char} {c : Char} {columns : List (List Char)} :
      allBlank lead = true → IsWord w → isBlank c = true → SetOut columns rest →
      SetOut (w :: columns) (lead ++ w ++ c :: rest)

/-! ## Words -/

theorem wordsFrom_blank (h : allBlank lead = true) (s : List Char) :
    wordsFrom [] (lead ++ s) = wordsFrom [] s := by
  induction lead with
  | nil => rfl
  | cons c lead ih =>
      obtain ⟨hc, hlead⟩ := Bool.and_eq_true_iff.mp h
      rw [List.cons_append, wordsFrom, if_pos hc]
      exact ih hlead

theorem wordsFrom_solid (h : ∀ c ∈ w, isBlank c = false) (word s : List Char) :
    wordsFrom word (w ++ s) = wordsFrom (w.reverse ++ word) s := by
  induction w generalizing word with
  | nil => rfl
  | cons c w ih =>
      obtain ⟨hc, hw⟩ := List.forall_mem_cons.mp h
      rw [List.cons_append, wordsFrom, hc, if_neg Bool.false_ne_true, ih hw, List.reverse_cons,
        List.append_assoc, List.singleton_append]

theorem wordsFrom_word_end (hw : w ≠ []) : wordsFrom w.reverse [] = [w] := by
  simp [wordsFrom, hw]

theorem wordsFrom_word_blank (hw : w ≠ []) (hc : isBlank c = true) (s : List Char) :
    wordsFrom w.reverse (c :: s) = w :: words s := by
  simp [wordsFrom, words, hw, hc]

theorem words_of_setOut {columns : List (List Char)} (h : SetOut columns s) : words s = columns := by
  induction h with
  | @blank s hblank =>
      have hrest := wordsFrom_blank hblank []
      rw [List.append_nil] at hrest
      exact hrest
  | @last lead w hlead hw =>
      have hsolid := wordsFrom_solid hw.solid [] []
      rw [List.append_nil, List.append_nil] at hsolid
      rw [words, wordsFrom_blank hlead, hsolid, wordsFrom_word_end hw.ne_nil]
  | @column lead w rest c columns hlead hw hc _ ih =>
      rw [words, List.append_assoc, wordsFrom_blank hlead, wordsFrom_solid hw.solid, List.append_nil,
        wordsFrom_word_blank hw.ne_nil hc, ih]

theorem SetOut.blank_cons {columns : List (List Char)} (h : SetOut columns s) (hc : isBlank c = true) :
    SetOut columns (c :: s) := by
  have hlead {lead : List Char} (hlead : allBlank lead = true) : allBlank (c :: lead) = true :=
    Bool.and_eq_true_iff.mpr ⟨hc, hlead⟩
  cases h with
  | blank hs => exact .blank (hlead hs)
  | last hs hw => exact .last (hlead hs) hw
  | column hs hw hd hrest => exact .column (hlead hs) hw hd hrest

/-- The letters of a word that has begun stand before the rest of the line. -/
theorem setOut_wordsFrom {word : List Char} (h : ∀ c ∈ word, isBlank c = false) (s : List Char) :
    SetOut (wordsFrom word s) (word.reverse ++ s) := by
  have hword {word : List Char} (h : ∀ c ∈ word, isBlank c = false) (hne : word ≠ []) : IsWord word.reverse :=
    ⟨by simpa using hne, by simpa using h⟩
  induction s generalizing word with
  | nil =>
      cases word with
      | nil => exact .blank rfl
      | cons d word =>
          rw [List.append_nil]
          exact @SetOut.last [] _ rfl (hword h (List.cons_ne_nil d word))
  | cons c s ih =>
      cases hc : isBlank c with
      | true =>
          cases word with
          | nil =>
              rw [wordsFrom, hc]
              exact (ih h).blank_cons hc
          | cons d word =>
              rw [wordsFrom, hc]
              exact @SetOut.column [] _ _ _ _ rfl (hword h (List.cons_ne_nil d word)) hc (ih (List.forall_mem_nil _))
      | false =>
          rw [wordsFrom, hc, List.append_cons, ← List.reverse_cons]
          exact ih (List.forall_mem_cons.mpr ⟨hc, h⟩)

/-- **`words_eq_iff`** — the words of a line are its columns. -/
theorem words_eq_iff {columns : List (List Char)} : words s = columns ↔ SetOut columns s :=
  ⟨fun h => h ▸ setOut_wordsFrom (List.forall_mem_nil _) s, words_of_setOut⟩

/-! ## Blanks at the end -/

theorem wordsFrom_append_blank (hc : isBlank c = true) (word s : List Char) :
    wordsFrom word (s ++ [c]) = wordsFrom word s := by
  induction s generalizing word with
  | nil => cases word <;> simp [wordsFrom, hc]
  | cons d s ih => simp only [List.cons_append, wordsFrom, ih]

theorem words_append_blank (hc : isBlank c = true) (s : List Char) : words (s ++ [c]) = words s :=
  wordsFrom_append_blank hc [] s

/-- The carriage return at the end of a line is no part of its words. -/
theorem words_chompReturn (s : List Char) : words (chompReturn s) = words s := by
  unfold chompReturn
  split
  · next rest hs =>
    have hs : s = rest.reverse ++ ['\r'] := by rw [← List.reverse_reverse s, hs, List.reverse_cons]
    rw [hs, words_append_blank (by decide)]
  · rfl

end LanCensus.Text
