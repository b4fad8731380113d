/-
# LanCensus.Proofs.Json.Reader -- what is written is read

A reader takes a value off the front of a text. `Reads r s x` says that it takes `x` off `s`, whatever
blanks stand before `s` and whatever mark ends it. This holds of the written form of every text, truth
value and number: an escape stands for one character, and a number ends where its digits end.
-/

import LanCensus.Json.Reader
import LanCensus.Proofs.Text.Digits

namespace LanCensus.Json

/-! ## Reading off the front -/

/-- **`Ends s`** — nothing at the front of the text could go on with a value. -/
def Ends (s : List Char) : Prop :=
  ∀ c ∈ s.head?, c = ',' ∨ c = ']' ∨ c = '\x7d' ∨ isSpace c = true

/-- Nothing but blanks. -/
def AreBlanks (s : List Char) : Prop := ∀ c ∈ s, isSpace c = true

instance (s : List Char) : Decidable (AreBlanks s) :=
  decidable_of_iff (s.all isSpace = true) List.all_eq_true

/-- **`Reads r s x`** — the reader takes `x` off `s`, with blanks before it, and leaves what follows. -/
def Reads {α : Type} (r : Reader α) (s : List Char) (x : α) : Prop :=
  ∀ blanks rest, AreBlanks blanks → Ends rest → r (blanks ++ (s ++ rest)) = .ok (x, rest)

theorem skipSpace_append {blanks : List Char} (h : AreBlanks blanks) (s : List Char) :
    skipSpace (blanks ++ s) = skipSpace s := List.dropWhile_append_of_pos h

theorem skipSpace_cons {c : Char} (h : isSpace c = false) (s : List Char) :
    skipSpace (c :: s) = c :: s := List.dropWhile_cons_of_neg (by rw [h]; exact Bool.false_ne_true)

theorem ends_nil : Ends [] := fun _ h => nomatch h

theorem ends_comma (s : List Char) : Ends (',' :: s) := by
  rintro c ⟨⟩
  exact .inl rfl

/-- A text that is read is read to its end. -/
theorem readWhole_of_reads {α : Type} {r : Reader α} {s : List Char} {x : α} (h : Reads r s x) :
    readWhole r (String.ofList s) = .ok x := by
  have hread := h [] [] (fun _ h => nomatch h) ends_nil
  rw [List.nil_append, List.append_nil] at hread
  rw [readWhole, String.toList_ofList, hread]
  rfl

/-! ## Texts -/

/-- A control character is read from its escape. -/
theorem hexEscape_control {n : Nat} (h : n < 0x20) (rest : List Char) :
    hexEscape ('0' :: '0' :: Text.hexDigit (n / 16) :: Text.hexDigit n :: rest) = .ok (n, rest) := by
  have hdigits : ∀ k < 0x20,
      Text.digits? 16 ['0', '0', Text.hexDigit (k / 16), Text.hexDigit k] = some k := by decide
  simp only [hexEscape, hdigits n h]

/-- An escape of one letter. -/
theorem stringBody_short {c e : Char} (h : shortEscape? e = some c) (rest : List Char) :
    stringBody ('\\' :: e :: rest) = (stringBody rest).map fun (cs, r) => (c :: cs, r) := by
  have hu : e ≠ 'u' := by
    rintro rfl
    cases h
  rw [stringBody, h]
  exact hu

/-- An escape of four digits. -/
theorem stringBody_control {c : Char} (h : c.toNat < 0x20) (rest : List Char) :
    stringBody (controlEscape c ++ rest) = (stringBody rest).map fun (cs, r) => (c :: cs, r) := by
  have hread : unicodeEscape ('0' :: '0' :: Text.hexDigit (c.toNat / 16) ::
      Text.hexDigit c.toNat :: rest) = .ok (c, rest) := by
    unfold unicodeEscape
    rw [hexEscape_control h]
    simp only
    rw [if_neg (by omega), if_pos (by omega), Char.ofNat_toNat]
  simp only [controlEscape, List.cons_append, List.nil_append]
  rw [stringBody]
  split
  · next heq => cases heq.symm.trans hread
  · next heq =>
      cases heq.symm.trans hread
      rfl

/-- A character that stands for itself. -/
theorem stringBody_plain {c : Char} (hquote : c ≠ '"') (hslash : c ≠ '\\')
    (hcontrol : ¬ c.toNat < 0x20) (rest : List Char) :
    stringBody (c :: rest) = (stringBody rest).map fun (cs, r) => (c :: cs, r) := by
  rw [stringBody, if_neg hcontrol]
  · exact hquote
  · exact fun h => absurd h hslash
  · exact fun _ h => absurd h hslash
  · exact fun _ _ h => absurd h hslash

/-- **`stringBody_escapeChar`** — the written form of a character is read as that character. -/
theorem stringBody_escapeChar (c : Char) (rest : List Char) :
    stringBody (escapeChar c ++ rest) = (stringBody rest).map fun (cs, r) => (c :: cs, r) := by
  unfold escapeChar
  split_ifs with hquote hslash hfeed hreturn htab hback hform hcontrol
  · exact stringBody_short (by rw [hquote]; rfl) rest
  · exact stringBody_short (by rw [hslash]; rfl) rest
  · exact stringBody_short (by rw [hfeed]; rfl) rest
  · exact stringBody_short (by rw [hreturn]; rfl) rest
  · exact stringBody_short (by rw [htab]; rfl) rest
  · exact stringBody_short (by rw [hback]; rfl) rest
  · exact stringBody_short (by rw [hform]; rfl) rest
  · exact stringBody_control hcontrol rest
  · exact stringBody_plain hquote hslash hcontrol rest

/-- **`stringBody_text`** — a text is read from its written form. -/
theorem stringBody_text (s rest : List Char) :
    stringBody (s.flatMap escapeChar ++ '"' :: rest) = .ok (s, rest) := by
  induction s with
  | nil => rw [List.flatMap_nil, List.nil_append, stringBody]
  | cons c s ih =>
      rw [List.flatMap_cons, List.append_assoc, stringBody_escapeChar, ih]
      rfl

/-- **`reads_string`** — a text. -/
theorem reads_string (level : Nat) (s : String) :
    Reads readString (indented level (.string s)) s := by
  intro blanks rest hblanks _
  have hfront : skipSpace (blanks ++ (indented level (.string s) ++ rest)) =
      '"' :: (s.toList.flatMap escapeChar ++ '"' :: rest) := by
    rw [skipSpace_append hblanks, indented, stringText, List.cons_append, skipSpace_cons (by decide),
      List.append_assoc, List.singleton_append]
  rw [readString, hfront]
  simp only [stringBody_text, Except.map, String.ofList_toList]

/-- A text that means something. -/
theorem reads_meaning {α : Type} {f : String → Option α} (level : Nat) {s : String} {x : α}
    (h : f s = some x) : Reads (readMeaning f) (indented level (.string s)) x := by
  intro blanks rest hblanks hrest
  rw [readMeaning, reads_string level s blanks rest hblanks hrest]
  simp only [bind, Except.bind, h]
  rfl

/-! ## Truth values -/

theorem word_append (w rest : List Char) : word w (w ++ rest) = .ok rest := by
  induction w with
  | nil => rfl
  | cons c w ih => rw [List.cons_append, word, if_pos rfl, ih]

/-- A truth value. -/
theorem reads_bool (level : Nat) (b : Bool) : Reads readBool (indented level (.bool b)) b := by
  intro blanks rest hblanks _
  cases b with
  | true =>
      rw [readBool, skipSpace_append hblanks, indented, List.cons_append, skipSpace_cons (by decide)]
      simp only [word_append, Except.map]
  | false =>
      rw [readBool, skipSpace_append hblanks, indented, List.cons_append, skipSpace_cons (by decide)]
      simp only [word_append, Except.map]

/-! ## Numbers -/

/-- What may follow a value is no part of a number. -/
theorem Ends.not_number {s : List Char} (h : Ends s) {c : Char} (hc : c ∈ s.head?) :
    c.isDigit = false ∧ c ≠ '.' ∧ c ≠ 'e' ∧ c ≠ 'E' := by
  rcases h c hc with rfl | rfl | rfl | hspace
  · decide
  · decide
  · decide
  · simp only [isSpace, Bool.or_eq_true, beq_iff_eq] at hspace
    rcases hspace with ((rfl | rfl) | rfl) | rfl <;> decide

/-- A run of digits ends where something else begins. -/
theorem takeWhile_digits {ds rest : List Char} (hds : ∀ c ∈ ds, c.isDigit = true)
    (h : ∀ c ∈ rest.head?, c.isDigit = false) :
    (ds ++ rest).takeWhile Char.isDigit = ds ∧ (ds ++ rest).dropWhile Char.isDigit = rest := by
  have hrest : rest.takeWhile Char.isDigit = [] ∧ rest.dropWhile Char.isDigit = rest := by
    cases rest with
    | nil => exact ⟨rfl, rfl⟩
    | cons c rest =>
        have hc : ¬ c.isDigit = true := by
          rw [h c rfl]
          exact Bool.false_ne_true
        exact ⟨List.takeWhile_cons_of_neg hc, List.dropWhile_cons_of_neg hc⟩
  rw [List.takeWhile_append_of_pos hds, List.dropWhile_append_of_pos hds, hrest.1, hrest.2,
    List.append_nil]
  exact ⟨rfl, rfl⟩

/-- Digits that spell a number below the bound are all taken in. -/
theorem absorb_eq {ds : List Char} {m : Nat} (h : Nat.ofDigitChars 10 ds m < Text.wordBound) :
    absorb m ds = (Nat.ofDigitChars 10 ds m, []) := by
  induction ds generalizing m with
  | nil => rw [absorb, Nat.ofDigitChars_nil]
  | cons c ds ih =>
      rw [Nat.ofDigitChars_cons, Nat.mul_comm] at h ⊢
      have hfits := Nat.lt_of_le_of_lt (Text.le_ofDigitChars ds _) h
      simp only [absorb, hfits, if_true, ih h]

/-- Rounding to 53 bits does not double a number. -/
theorem toFloat_le (n : Nat) : toFloat n ≤ 2 * n + 1 := by
  have hstep : Text.Rounded.spacing n ≤ n + 1 := by
    unfold Text.Rounded.spacing
    split
    · omega
    · next hbig =>
        have hne : n ≠ 0 := by
          rintro rfl
          exact hbig (by decide)
        calc
          Nat.pow 2 (n.log2 - 52) ≤ 2 ^ n.log2 := Nat.pow_le_pow_right (by decide) (by omega)
          _ ≤ n := Nat.log2_self_le hne
          _ ≤ n + 1 := Nat.le_succ n
  have hnear (d : Nat) : Text.Rounded.nearestWhole n d ≤ n / d + 1 := by
    simp only [Text.Rounded.nearestWhole]
    split_ifs <;> omega
  calc
    toFloat n = Text.Rounded.nearestWhole n (Text.Rounded.spacing n) * Text.Rounded.spacing n := by
      rw [toFloat, Text.Rounded.nearest, Nat.div_one, Nat.one_mul]
    _ ≤ (n / Text.Rounded.spacing n + 1) * Text.Rounded.spacing n :=
      Nat.mul_le_mul_right _ (hnear _)
    _ ≤ n + Text.Rounded.spacing n := by
      rw [Nat.add_mul, Nat.one_mul]
      exact Nat.add_le_add_right (Nat.div_mul_le_self n _) _
    _ ≤ 2 * n + 1 := by omega

/-- A number of 64 bits does not overflow. -/
theorem overflows_word {n : Nat} (h : n < Text.wordBound) : overflows n 0 = false := by
  have hfloat := toFloat_le n
  have hone : toFloat (Nat.pow 10 (Int.toNat 0)) = 1 := by decide
  have hbound : 2 * Text.wordBound ≤ floatBound := by decide +kernel
  unfold overflows
  split_ifs with hzero hgreat
  · rfl
  · omega
  · rw [hone, Nat.mul_one, decide_eq_false_iff_not]
    omega

/-- A whole number ends where its digits end. -/
theorem readTail_of_ends {n : Nat} {rest : List Char} (hn : n < Text.wordBound) (h : Ends rest) :
    readTail n 0 rest = .ok (false, rest) := by
  cases rest with
  | nil =>
      rw [readTail, overflows_word hn]
      rfl
  | cons c rest =>
      obtain ⟨-, hpoint, hlower, hupper⟩ := h.not_number rfl
      rw [readTail, if_neg (not_or.mpr ⟨hlower, hupper⟩), overflows_word hn]
      · rfl
      · exact hpoint

/-- The first character of a number. -/
theorem toDigits_cons (n : Nat) :
    ∃ c ds, Nat.toDigits 10 n = c :: ds ∧ c.isDigit = true ∧ c ≠ '-' ∧ isSpace c = false := by
  obtain ⟨c, ds, hds⟩ := List.exists_cons_of_ne_nil (Nat.toDigits_ne_nil (n := n) (b := 10))
  have hc : c.isDigit = true := Text.isDigit_of_mem_toDigits c (hds ▸ List.mem_cons_self)
  refine ⟨c, ds, hds, hc, ?_, ?_⟩
  · rintro rfl
    cases hc
  · rw [← Bool.not_eq_true]
    intro hspace
    simp only [isSpace, Bool.or_eq_true, beq_iff_eq] at hspace
    rcases hspace with ((rfl | rfl) | rfl) | rfl <;> cases hc

theorem readNumber_toDigits {n : Nat} {rest : List Char} (hn : n < Text.wordBound) (h : Ends rest) :
    readNumber (Nat.toDigits 10 n ++ rest) = .ok (.natural n, rest) := by
  have hmagnitude : readMagnitude true (Nat.toDigits 10 n ++ rest) = .ok (.natural n, rest) := by
    obtain ⟨htake, hdrop⟩ := takeWhile_digits (Text.isDigit_of_mem_toDigits (n := n))
      fun _ hc => (h.not_number hc).1
    have hfits : Nat.ofDigitChars 10 (Nat.toDigits 10 n) 0 < Text.wordBound := by
      rwa [Nat.ofDigitChars_ten_toDigits]
    have habsorb := absorb_eq hfits
    rw [Nat.ofDigitChars_ten_toDigits] at habsorb
    unfold readMagnitude
    simp only [htake, hdrop]
    split
    · next hnil => exact absurd hnil Nat.toDigits_ne_nil
    · next hzeros => exact absurd hzeros (Text.toDigits_ne_zeros n _ _)
    · rw [habsorb]
      simp only [List.length_nil, Int.ofNat_zero, readTail_of_ends hn h]
      rfl
  obtain ⟨c, ds, hds, -, hminus, -⟩ := toDigits_cons n
  rw [hds, List.cons_append] at hmagnitude ⊢
  rw [readNumber, hmagnitude]
  exact fun _ h => hminus (List.cons.inj h).1

/-- **`reads_toDigits`** — the digits of a number below the bound. -/
theorem reads_toDigits {n bound : Nat} (hn : n < bound) (hbound : bound ≤ Text.wordBound) :
    Reads (readNat bound) (Nat.toDigits 10 n) n := by
  intro blanks rest hblanks hrest
  have hread := readNumber_toDigits (Nat.lt_of_lt_of_le hn hbound) hrest
  obtain ⟨c, ds, hds, hdigit, -, hspace⟩ := toDigits_cons n
  rw [readNat, skipSpace_append hblanks]
  rw [hds, List.cons_append] at hread ⊢
  rw [skipSpace_cons hspace]
  simp only [List.head?_cons, Option.any_some, hdigit, or_true, decide_true, if_true, hread, hn]

/-- A number below the bound. -/
theorem reads_nat {n bound : Nat} (level : Nat) (hn : n < bound) (hbound : bound ≤ Text.wordBound) :
    Reads (readNat bound) (indented level (.ofNat n)) n := by
  have htext : indented level (.ofNat n) = Nat.toDigits 10 n := by
    rw [ofNat, indented, numberText, if_neg (by omega), Int.natAbs_natCast]
  rw [htext]
  exact reads_toDigits hn hbound

end LanCensus.Json
