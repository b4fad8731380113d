/-
# LanCensus.Proofs.Text.Pieces -- texts cut at separators and into lines

A text that is put together around a separator falls apart there again, so the lines of a text are those of
its beginning and those of its rest, wherever a line feed stands between them (`lines_append`).
-/

import LanCensus.Text.Blank
import Mathlib.Data.List.Basic
import Mathlib.Data.List.TakeWhile

namespace LanCensus.Text

variable {sep : Char} {s t name value : List Char}

/-! ## Separators -/

theorem splitAt_append (sep : Char) (s t : List Char) :
    splitAt sep (s ++ sep :: t) = splitAt sep s ++ splitAt sep t := by
  induction s with
  | nil => simp [splitAt]
  | cons c s ih =>
      obtain ⟨piece, pieces, hs⟩ := List.exists_cons_of_ne_nil (splitAt_ne_nil sep s)
      rw [List.cons_append, splitAt, splitAt, ih, hs]
      split <;> rfl

/-- A text without separators is one piece. -/
theorem splitAt_of_not_mem (h : sep ∉ s) : splitAt sep s = [s] := by
  induction s with
  | nil => rfl
  | cons c s ih =>
      obtain ⟨hc, hs⟩ := not_or.mp (mt List.mem_cons.mpr h)
      rw [splitAt, if_neg (Ne.symm hc), ih hs]

/-- What stands before the first separator is the first piece. -/
theorem splitAt_append_of_not_mem (h : sep ∉ s) (t : List Char) :
    splitAt sep (s ++ sep :: t) = s :: splitAt sep t := by
  rw [splitAt_append, splitAt_of_not_mem h, List.singleton_append]

/-- The pieces with separators between them make up the text again. -/
theorem append_of_splitAt {p : List Char} {ps : List (List Char)} (h : splitAt sep s = p :: ps) :
    s = p ++ ps.flatMap (sep :: ·) := by
  induction s generalizing p ps with
  | nil =>
      cases h
      rfl
  | cons c s ih =>
      obtain ⟨q, qs, hs⟩ := List.exists_cons_of_ne_nil (splitAt_ne_nil sep s)
      rw [splitAt, hs] at h
      split at h
      · next hc =>
        cases h
        rw [hc, ih hs, List.nil_append, List.flatMap_cons, List.cons_append]
      · cases h
        rw [ih hs, List.cons_append]

/-- The text before the first separator and the text after it. -/
theorem splitOnce_eq_some_iff :
    splitOnce sep s = some (name, value) ↔ s = name ++ sep :: value ∧ sep ∉ name := by
  constructor
  · intro h
    unfold splitOnce at h
    cases hrest : s.dropWhile (· ≠ sep) with
    | nil => rw [hrest] at h; cases h
    | cons c after =>
        rw [hrest] at h
        cases h
        have hc : c = sep := by
          have hhead := List.head?_dropWhile_not (· ≠ sep) s
          rw [hrest, List.head?_cons] at hhead
          simpa using hhead
        constructor
        · calc s = s.takeWhile (· ≠ sep) ++ s.dropWhile (· ≠ sep) := List.takeWhile_append_dropWhile.symm
            _ = s.takeWhile (· ≠ sep) ++ sep :: value := by rw [hrest, hc]
        · intro hmem
          simpa using List.mem_takeWhile_imp hmem
  · rintro ⟨rfl, hname⟩
    have hkeep : ∀ c ∈ name, decide (c ≠ sep) = true := fun c hc =>
      decide_eq_true fun h => hname (h ▸ hc)
    rw [splitOnce, List.dropWhile_append_of_pos hkeep, List.takeWhile_append_of_pos hkeep]
    simp

/-! ## Lines -/

/-- **`lines_append`** — the lines of what stands before a line feed, and then those of what follows it. -/
theorem lines_append (s t : List Char) :
    lines (s ++ '\n' :: t) = (splitAt '\n' s).map chompReturn ++ lines t := by
  obtain ⟨pieces, last, ht⟩ : ∃ pieces last, splitAt '\n' t = pieces ++ [last] :=
    (List.eq_nil_or_concat' _).resolve_left (splitAt_ne_nil '\n' t)
  have hs : splitAt '\n' (s ++ '\n' :: t) = (splitAt '\n' s ++ pieces) ++ [last] := by
    rw [splitAt_append, ht, List.append_assoc]
  simp only [lines, hs, ht, List.dropLast_concat, List.getLast?_concat, List.map_append]
  cases last <;> simp only [List.append_assoc]

/-- To a reader that makes nothing of an empty line and does not mind a carriage return at the end of one, the
lines of a text are the pieces between its line feeds. -/
theorem filterMap_drop_lines {β : Type*} {f : List Char → Option β} (hempty : f [] = none)
    (hreturn : ∀ line, f (chompReturn line) = f line) (k : Nat) (s : List Char) :
    ((lines s).drop k).filterMap f = ((splitAt '\n' s).drop k).filterMap f := by
  obtain ⟨pieces, last, hs⟩ : ∃ pieces last, splitAt '\n' s = pieces ++ [last] :=
    (List.eq_nil_or_concat' _).resolve_left (splitAt_ne_nil '\n' s)
  have hended : (pieces.map chompReturn).drop k = (pieces.drop k).map chompReturn := List.map_drop.symm
  have hread : ((pieces.drop k).map chompReturn).filterMap f = (pieces.drop k).filterMap f := by
    rw [List.filterMap_map]
    exact congrArg (List.filterMap · _) (funext hreturn)
  simp only [lines, hs, List.dropLast_concat, List.getLast?_concat]
  cases last with
  | nil =>
      -- A text that ends with a line feed has one piece more, which is empty.
      have hrest : (([[]] : List (List Char)).drop (k - pieces.length)).filterMap f = [] := by
        cases k - pieces.length <;> simp [hempty]
      rw [hended, hread, List.drop_append, List.filterMap_append, hrest, List.append_nil]
  | cons c last =>
      rw [List.drop_append, hended, List.length_map, List.filterMap_append, hread, List.drop_append,
        List.filterMap_append]

end LanCensus.Text
