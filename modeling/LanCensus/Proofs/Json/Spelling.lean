/-
# LanCensus.Proofs.Json.Spelling -- how a text may be spelled

A text has many spellings: a character may stand for itself, or be escaped by a letter, by four digits, or
by the two halves of a surrogate pair (`Letter`, `Spells`). A string that is only skipped may hold half a
pair by itself (`Piece`, `IsBody`); it spells no text then. The reader finds exactly the text that a string
spells, and both reader and skipper stop behind the quote that closes it.
-/

import LanCensus.Proofs.Json.Reader
import LanCensus.Proofs.Json.Gives

namespace LanCensus.Json

/-! ## Spellings -/

/-- Four hexadecimal digits, and the number they spell. -/
def IsCode (w : List Char) (n : Nat) : Prop := w.length = 4 ∧ Text.digits? 16 w = some n

/-- A character that may stand for itself in a string. -/
def isPlain (c : Char) : Bool := c != '"' && c != '\\' && decide (0x20 ≤ c.toNat)

theorem isPlain_iff {c : Char} : isPlain c = true ↔ c ≠ '"' ∧ c ≠ '\\' ∧ 0x20 ≤ c.toNat := by
  simp only [isPlain, Bool.and_eq_true, bne_iff_ne, decide_eq_true_eq, and_assoc]

/-- **`Letter w c`** — within a string, `w` spells the character `c`. -/
inductive Letter : List Char → Char → Prop where
  | plain {c : Char} : isPlain c = true → Letter [c] c
  | short {e c : Char} : shortEscape? e = some c → Letter ['\\', e] c
  | code {w : List Char} {c : Char} : IsCode w c.toNat → Letter ('\\' :: 'u' :: w) c
  | pair {w v : List Char} {high low : Nat} : IsCode w high → IsCode v low →
    0xD800 ≤ high → high ≤ 0xDBFF → 0xDC00 ≤ low → low ≤ 0xDFFF →
    Letter ('\\' :: 'u' :: (w ++ '\\' :: 'u' :: v))
      (Char.ofNat (0x10000 + (high - 0xD800) * 0x400 + (low - 0xDC00)))

/-- **`Spells w s`** — between quotes, `w` spells the text `s`. -/
inductive Spells : List Char → List Char → Prop where
  | nil : Spells [] []
  | cons {w v s : List Char} {c : Char} : Letter w c → Spells v s → Spells (w ++ v) (c :: s)

/-- **`Piece w`** — a piece of a string, whether or not it spells a character. -/
inductive Piece : List Char → Prop where
  | plain {c : Char} : isPlain c = true → Piece [c]
  | short {e c : Char} : shortEscape? e = some c → Piece ['\\', e]
  | code {w : List Char} {n : Nat} : IsCode w n → Piece ('\\' :: 'u' :: w)

/-- **`IsBody w`** — what may stand between the quotes of a string. -/
inductive IsBody : List Char → Prop where
  | nil : IsBody []
  | cons {w v : List Char} : Piece w → IsBody v → IsBody (w ++ v)

/-- A spelling may stand between quotes. -/
theorem Spells.isBody {w s : List Char} (h : Spells w s) : IsBody w := by
  induction h with
  | nil => exact .nil
  | cons hletter _ ih =>
      cases hletter with
      | plain hplain => exact .cons (.plain hplain) ih
      | short hshort => exact .cons (.short hshort) ih
      | code hcode => exact .cons (.code hcode) ih
      | pair hhigh hlow =>
          have hbody := IsBody.cons (.code hhigh) (.cons (.code hlow) ih)
          simpa only [List.cons_append, List.append_assoc] using hbody

/-- A text of plain characters spells itself. -/
theorem spells_plain {s : List Char} (h : s.all isPlain = true) : Spells s s := by
  induction s with
  | nil => exact .nil
  | cons c s ih =>
      rw [List.all_cons, Bool.and_eq_true] at h
      exact .cons (.plain h.1) (ih h.2)

/-! ## Codes -/

theorem IsCode.hexEscape {w : List Char} {n : Nat} (h : IsCode w n) (rest : List Char) :
    hexEscape (w ++ rest) = .ok (n, rest) := by
  obtain ⟨hlength, hdigits⟩ := h
  obtain ⟨a, b, c, d, rfl⟩ : ∃ a b c d, w = [a, b, c, d] := by
    match w, hlength with
    | [a, b, c, d], _ => exact ⟨a, b, c, d, rfl⟩
  simp only [List.cons_append, List.nil_append, Json.hexEscape, hdigits]

theorem exists_isCode {s rest : List Char} {n : Nat} (h : hexEscape s = .ok (n, rest)) :
    ∃ w, IsCode w n ∧ s = w ++ rest := by
  unfold hexEscape at h
  split at h
  · split at h
    · next hdigits =>
      cases h
      exact ⟨_, ⟨rfl, hdigits⟩, rfl⟩
    · cases h
  · cases h

/-- A number outside the surrogates that four digits can spell is the number of a character. -/
theorem IsCode.toNat_ofNat {w : List Char} {n : Nat} (h : IsCode w n)
    (hlow : n < 0xD800 ∨ 0xDFFF < n) : (Char.ofNat n).toNat = n := by
  obtain ⟨hlength, hdigits⟩ := h
  have hlt := Text.digits?_lt hdigits
  rw [hlength] at hlt
  have hvalid : n.isValidChar := by
    rcases hlow with hlow | hlow
    · exact .inl hlow
    · exact .inr ⟨hlow, by omega⟩
  rw [Char.ofNat, dif_pos hvalid]
  rfl

/-! ## Skipping a string -/

theorem skipString_piece {w : List Char} (h : Piece w) (rest : List Char) :
    skipString (w ++ rest) = skipString rest := by
  cases h with
  | plain hplain =>
      obtain ⟨hquote, hslash, hcontrol⟩ := isPlain_iff.mp hplain
      rw [List.singleton_append, skipString, if_neg (Nat.not_lt.mpr hcontrol)]
      · exact hquote
      · exact fun h => absurd h hslash
      · exact fun _ h => absurd h hslash
      · exact fun _ _ h => absurd h hslash
  | @short e c hshort =>
      have hu : e ≠ 'u' := by
        rintro rfl
        cases hshort
      rw [List.cons_append, List.singleton_append, skipString, hshort]
      · rfl
      · exact hu
  | @code w n hcode =>
      rw [List.cons_append, List.cons_append, skipString]
      split
      · next heq => cases heq.symm.trans (hcode.hexEscape rest)
      · next heq =>
          cases heq.symm.trans (hcode.hexEscape rest)
          rfl

/-- **`skipString_body`** — a string is skipped up to its closing quote. -/
theorem skipString_body {w : List Char} (h : IsBody w) (rest : List Char) :
    skipString (w ++ '"' :: rest) = .ok rest := by
  induction h with
  | nil => rw [List.nil_append, skipString]
  | cons hpiece _ ih => rw [List.append_assoc, skipString_piece hpiece, ih]

/-! ## Reading a string -/

/-- A character is read from any of its spellings. -/
theorem stringBody_letter {w : List Char} {c : Char} (h : Letter w c) (rest : List Char) :
    stringBody (w ++ rest) = (stringBody rest).map fun (cs, r) => (c :: cs, r) := by
  have hcode : ∀ {v : List Char}, unicodeEscape (v ++ rest) = .ok (c, rest) →
      stringBody ('\\' :: 'u' :: (v ++ rest)) =
        (stringBody rest).map fun (cs, r) => (c :: cs, r) := by
    intro v hread
    rw [stringBody]
    split
    · next heq => cases heq.symm.trans hread
    · next heq =>
        cases heq.symm.trans hread
        rfl
  cases h with
  | plain hplain =>
      obtain ⟨hquote, hslash, hcontrol⟩ := isPlain_iff.mp hplain
      exact stringBody_plain hquote hslash (Nat.not_lt.mpr hcontrol) rest
  | short hshort => exact stringBody_short hshort rest
  | @code v _ hv =>
      -- The number of a character is no surrogate's.
      have hvalid := c.valid
      refine hcode ?_
      rw [unicodeEscape, hv.hexEscape]
      have hbelow : ¬(0xDC00 ≤ c.toNat ∧ c.toNat ≤ 0xDFFF) := by
        rcases hvalid with h | ⟨h, -⟩
        · exact fun hn => absurd h (by show ¬ c.toNat < 0xD800; omega)
        · exact fun hn => absurd h (by show ¬ 0xDFFF < c.toNat; omega)
      have houtside : c.toNat < 0xD800 ∨ 0xDBFF < c.toNat := by
        rcases hvalid with h | ⟨h, -⟩
        · exact .inl h
        · exact .inr (Nat.lt_trans (by decide) h)
      simp only [if_neg hbelow, if_pos houtside, Char.ofNat_toNat]
  | @pair v u high low hhigh hlow h1 h2 h3 h4 =>
      have hread : unicodeEscape ((v ++ '\\' :: 'u' :: u) ++ rest) =
          .ok (Char.ofNat (0x10000 + (high - 0xD800) * 0x400 + (low - 0xDC00)), rest) := by
        rw [List.append_assoc, List.cons_append, List.cons_append, unicodeEscape, hhigh.hexEscape]
        simp only
        rw [if_neg (by omega), if_neg (by omega)]
        simp only [hlow.hexEscape]
        rw [if_neg (by omega)]
      exact hcode hread

/-- **`stringBody_spelled`** — a text is read from any of its spellings. -/
theorem stringBody_spelled {w s : List Char} (h : Spells w s) (rest : List Char) :
    stringBody (w ++ '"' :: rest) = .ok (s, rest) := by
  induction h with
  | nil => rw [List.nil_append, stringBody]
  | cons hletter _ ih =>
      rw [List.append_assoc, stringBody_letter hletter, ih]
      rfl

/-- What a four-digit escape is read as, it spells. -/
theorem exists_letter {s rest : List Char} {c : Char} (h : unicodeEscape s = .ok (c, rest)) :
    ∃ w, Letter ('\\' :: 'u' :: w) c ∧ s = w ++ rest := by
  unfold unicodeEscape at h
  split at h
  · cases h
  · next n more hfirst =>
    obtain ⟨w, hw, rfl⟩ := exists_isCode hfirst
    split_ifs at h with hlow hsingle
    · cases h
      refine ⟨w, .code ?_, rfl⟩
      rwa [hw.toNat_ofNat (by omega)]
    · -- What is left is the first half of a pair.
      split at h
      · split at h
        · cases h
        · next m after hsecond =>
          obtain ⟨v, hv, rfl⟩ := exists_isCode hsecond
          split_ifs at h with hhalf
          simp only [Except.ok.injEq, Prod.mk.injEq] at h
          obtain ⟨rfl, rfl⟩ := h
          refine ⟨w ++ '\\' :: 'u' :: v, .pair hw hv ?_ ?_ ?_ ?_, ?_⟩
          · omega
          · omega
          · omega
          · omega
          · rw [List.append_assoc, List.cons_append, List.cons_append]
      · cases h
      · cases h

/-- A letter was read, and a text behind it. -/
theorem exists_spells_cons {w t s rest : List Char} {c : Char} (hw : Letter w c)
    (ih : ∀ {s}, stringBody t = .ok (s, rest) → ∃ v, Spells v s ∧ t = v ++ '"' :: rest)
    (h : (stringBody t).map (fun (cs, r) => (c :: cs, r)) = .ok (s, rest)) :
    ∃ v, Spells v s ∧ w ++ t = v ++ '"' :: rest := by
  cases hmore : stringBody t with
  | error e =>
      rw [hmore] at h
      cases h
  | ok more =>
      rw [hmore] at h
      cases h
      obtain ⟨v, hv, rfl⟩ := ih hmore
      exact ⟨w ++ v, .cons hw hv, (List.append_assoc _ _ _).symm⟩

/-- **`spells_of_stringBody`** — what a string is read as, it spells. -/
theorem spells_of_stringBody {t s rest : List Char} (h : stringBody t = .ok (s, rest)) :
    ∃ w, Spells w s ∧ t = w ++ '"' :: rest := by
  fun_induction stringBody t generalizing s with
  | case1 => cases h
  | case2 rest =>
      cases h
      exact ⟨[], .nil, rfl⟩
  | case3 => cases h
  | case4 => cases h
  | case5 t c after hescape ih =>
      obtain ⟨w, hw, rfl⟩ := exists_letter hescape
      exact exists_spells_cons hw ih h
  | case6 e t _ c hshort ih => exact exists_spells_cons (.short hshort) ih h
  | case7 => cases h
  | case8 => cases h
  | case9 c t hquote hend _ hescape hcontrol ih =>
      -- A backslash would have something behind it, and then it would be an escape.
      have hslash : c ≠ '\\' := by
        intro hc
        cases t with
        | nil => exact hend hc rfl
        | cons e t => exact hescape e t hc rfl
      have hplain := isPlain_iff.mpr ⟨hquote, hslash, Nat.not_lt.mp hcontrol⟩
      exact exists_spells_cons (.plain hplain) ih h

/-- **`stringBody_eq_ok_iff`** — a string is read as the text that it spells, if it spells one, and
what follows its closing quote is left. -/
theorem stringBody_eq_ok_iff {w : List Char} (hw : IsBody w) {rest s after : List Char} :
    stringBody (w ++ '"' :: rest) = .ok (s, after) ↔ Spells w s ∧ after = rest := by
  constructor
  · intro hread
    obtain ⟨v, hv, heq⟩ := spells_of_stringBody hread
    -- Skipping shows that both end at the same quote.
    have hafter : after = rest := by
      have hskip := skipString_body hv.isBody after
      rw [← heq, skipString_body hw] at hskip
      exact (Except.ok.inj hskip).symm
    subst hafter
    obtain rfl := List.append_cancel_right heq
    exact ⟨hv, rfl⟩
  · rintro ⟨hs, rfl⟩
    exact stringBody_spelled hs after

end LanCensus.Json
