/-
# LanCensus.Proofs.Json.Decoding -- what a reader makes of a value

A reader that is given the text of a value either finds what the text tells, and leaves what follows it, or
fails (`Decodes`). So a text is read as the text that its string spells, a truth value from its word, and a
number from its own digits only: a sign, a fraction or an exponent makes it something else.
-/

import LanCensus.Proofs.Json.Grammar

namespace LanCensus.Json

/-- **`Decodes r P`** — given a value, the reader finds what the value tells in the sense of `P`, if it tells
anything, and leaves what follows. -/
def Decodes {α : Type} (r : Reader α) (P : List Char → α → Prop) : Prop :=
  ∀ {v}, Forms .value v → ∀ {b rest x after}, AreBlanks b → Ends rest →
    (r (b ++ (v ++ rest)) = .ok (x, after) ↔ P v x ∧ after = rest)

/-! ## Texts -/

/-- **`IsText v s`** — the value is a string that spells the text. -/
def IsText (v : List Char) (s : String) : Prop := ∃ w, Spells w s.toList ∧ v = '"' :: (w ++ ['"'])

theorem isText_plain {s : String} (h : s.toList.all isPlain = true) :
    IsText ('"' :: (s.toList ++ ['"'])) s := ⟨s.toList, spells_plain h, rfl⟩

/-- **`decodes_string`** — a string is read as the text that it spells. -/
theorem decodes_string : Decodes readString IsText := by
  intro v hv b rest x after hb hrest
  -- A value that begins with another mark is no string.
  have hother : ∀ {c t}, v = c :: t → c ≠ '"' →
      (readString (b ++ (v ++ rest)) = .ok (x, after) ↔ IsText v x ∧ after = rest) := by
    rintro c t rfl hc
    rw [readString, (starts_value hv).skipSpace hb, List.cons_append]
    constructor
    · intro hread
      split at hread
      · next heq => exact absurd (List.cons.inj heq).1 hc
      · cases hread
    · rintro ⟨⟨w, -, heq⟩, -⟩
      exact absurd (List.cons.inj heq).1 hc
  cases hv with
  | @string w hw =>
      have hbody : ∀ s, stringBody (w ++ '"' :: rest) = .ok (s, after) ↔ Spells w s ∧ after = rest :=
        fun s => stringBody_eq_ok_iff hw
      rw [readString, (starts_value (.string hw)).skipSpace hb, List.cons_append, List.append_assoc,
        List.singleton_append]
      constructor
      · intro hread
        cases hstring : stringBody (w ++ '"' :: rest) with
        | error e =>
            simp only [hstring] at hread
            cases hread
        | ok found =>
            simp only [hstring] at hread
            cases hread
            obtain ⟨hspells, hafter⟩ := (hbody _).mp hstring
            exact ⟨⟨w, by rwa [String.toList_ofList], rfl⟩, hafter⟩
      · rintro ⟨⟨u, hspells, heq⟩, rfl⟩
        obtain rfl := List.append_cancel_right (List.cons.inj heq).2
        simp only [(hbody _).mpr ⟨hspells, rfl⟩, Except.map, String.ofList_toList]
  | number hw =>
      obtain ⟨c, t, rfl, hc⟩ := exists_digit_of_isMagnitude hw
      refine hother rfl ?_
      rintro rfl
      cases hc
  | _ => exact hother rfl (by decide)

/-- A string is read as what its text means. -/
theorem decodes_meaning {α : Type} (f : String → Option α) :
    Decodes (readMeaning f) fun v x => ∃ s, IsText v s ∧ f s = some x := by
  intro v hv b rest x after hb hrest
  constructor
  · intro hread
    obtain ⟨⟨s, left⟩, hstring, hmeaning⟩ := bind_eq_ok hread
    obtain ⟨hs, hleft⟩ := (decodes_string hv hb hrest).mp hstring
    dsimp only at hmeaning
    split at hmeaning
    · next hf =>
      cases hmeaning
      exact ⟨⟨s, hs, hf⟩, hleft⟩
    · cases hmeaning
  · rintro ⟨⟨s, hs, hf⟩, rfl⟩
    rw [readMeaning, (decodes_string hv hb hrest).mpr ⟨hs, rfl⟩]
    simp only [bind, Except.bind, hf]
    rfl

/-! ## Truth values -/

/-- The word of a truth value. -/
def boolText : Bool → List Char
  | true => ['t', 'r', 'u', 'e']
  | false => ['f', 'a', 'l', 's', 'e']

theorem boolText_inj {x y : Bool} (h : boolText x = boolText y) : x = y := by
  cases x <;> cases y <;> first | rfl | cases h

/-- **`decodes_bool`** — a truth value is read from its word. -/
theorem decodes_bool : Decodes readBool fun v x => v = boolText x := by
  intro v hv b rest x after hb hrest
  have hword : ∀ y, readBool (b ++ (boolText y ++ rest)) = .ok (y, rest) := by
    intro y
    have hread := reads_bool 0 y b rest hb hrest
    cases y <;> rwa [indented] at hread
  have hsame : ∀ {y}, v = boolText y →
      (readBool (b ++ (v ++ rest)) = .ok (x, after) ↔ v = boolText x ∧ after = rest) := by
    rintro y rfl
    rw [hword y]
    constructor
    · rintro ⟨⟩
      exact ⟨rfl, rfl⟩
    · rintro ⟨heq, rfl⟩
      rw [boolText_inj heq]
  have hother : ∀ {c t}, v = c :: t → c ≠ 't' ∧ c ≠ 'f' →
      (readBool (b ++ (v ++ rest)) = .ok (x, after) ↔ v = boolText x ∧ after = rest) := by
    rintro c t rfl ⟨htrue, hfalse⟩
    rw [readBool, (starts_value hv).skipSpace hb, List.cons_append]
    constructor
    · intro hread
      split at hread
      · next heq => exact absurd (List.cons.inj heq).1 htrue
      · next heq => exact absurd (List.cons.inj heq).1 hfalse
      · cases hread
    · rintro ⟨heq, -⟩
      cases x with
      | true => exact absurd (List.cons.inj heq).1 htrue
      | false => exact absurd (List.cons.inj heq).1 hfalse
  cases hv with
  | true => exact hsame (y := true) rfl
  | false => exact hsame (y := false) rfl
  | number hw =>
      obtain ⟨c, t, rfl, hc⟩ := exists_digit_of_isMagnitude hw
      refine hother rfl ⟨?_, ?_⟩
      · rintro rfl
        cases hc
      · rintro rfl
        cases hc
  | _ => exact hother rfl (by decide)

/-! ## Numbers -/

/-- A reader that took in all digits found the number that they spell. -/
theorem eq_of_absorb {ds : List Char} {m n : Nat} (h : absorb m ds = (n, [])) :
    n = Nat.ofDigitChars 10 ds m := by
  induction ds generalizing m with
  | nil =>
      cases h
      rw [Nat.ofDigitChars_nil]
  | cons c ds ih =>
      simp only [absorb] at h
      split at h
      · rw [ih h, Nat.ofDigitChars_cons, Nat.mul_comm]
      · cases h

/-- An exponent breaks a number. -/
theorem map_broken_ne {x : Except Fault (List Char)} {after : List Char} :
    x.map (true, ·) ≠ .ok (false, after) := by
  cases x <;> exact nofun

/-- A number that has neither fraction nor exponent ends where its digits end. -/
theorem of_readTail {m : Nat} {base : Int} {s after : List Char}
    (h : readTail m base s = .ok (false, after)) :
    after = s ∧ ∀ c ∈ s.head?, c ≠ '.' ∧ c ≠ 'e' ∧ c ≠ 'E' := by
  unfold readTail at h
  split at h
  · -- A fraction breaks a number, whether or not an exponent follows it.
    dsimp only at h
    split at h
    · cases h
    · split at h
      · split_ifs at h
        · exact absurd h map_broken_ne
        · cases h
      · split_ifs at h
        cases h
  · next c s hpoint =>
    split_ifs at h with hmark hover
    · exact absurd h map_broken_ne
    · cases h
      refine ⟨rfl, ?_⟩
      rintro d ⟨⟩
      exact ⟨hpoint, not_or.mp hmark⟩
  · split_ifs at h
    cases h
    exact ⟨rfl, fun _ hc => nomatch hc⟩

/-- **`of_readMagnitude`** — a whole number is read from its digits alone. -/
theorem of_readMagnitude {positive : Bool} {s after : List Char} {n : Nat}
    (h : readMagnitude positive s = .ok (.natural n, after)) :
    positive = true ∧ s.takeWhile Char.isDigit ≠ [] ∧
      n = Nat.ofDigitChars 10 (s.takeWhile Char.isDigit) 0 ∧ after = s.dropWhile Char.isDigit ∧
      ∀ c ∈ after.head?, c ≠ '.' ∧ c ≠ 'e' ∧ c ≠ 'E' := by
  unfold readMagnitude at h
  dsimp only at h
  split at h
  · cases h
  · cases h
  · next hne _ =>
    obtain ⟨⟨broken, rest⟩, htail, hnumber⟩ := bind_eq_ok h
    dsimp only at hnumber
    split at hnumber
    · next hwhole =>
      cases hnumber
      simp only [Bool.and_eq_true, Bool.not_eq_true', List.isEmpty_iff] at hwhole
      obtain ⟨⟨hpositive, rfl⟩, hleft⟩ := hwhole
      obtain ⟨hafter, hfollow⟩ := of_readTail htail
      refine ⟨hpositive, hne, ?_, hafter, hafter ▸ hfollow⟩
      exact eq_of_absorb (Prod.ext rfl hleft)
    · cases hnumber

/-- A number below the bound has no sign. -/
theorem of_readNat {bound n : Nat} {s after : List Char} (h : readNat bound s = .ok (n, after)) :
    n < bound ∧ readMagnitude true (skipSpace s) = .ok (.natural n, after) := by
  unfold readNat at h
  dsimp only at h
  split at h
  · split at h
    · next hnumber =>
      split at h
      · next hn =>
        cases h
        refine ⟨hn, ?_⟩
        unfold readNumber at hnumber
        split at hnumber
        · exact absurd (of_readMagnitude hnumber).1 Bool.false_ne_true
        · exact hnumber
      · cases h
    · cases h
    · cases h
  · cases h

/-- What is read as a whole number is nothing but its digits. -/
theorem eq_toDigits_of_readMagnitude {w rest after : List Char} {n : Nat} (hw : IsMagnitude w)
    (hrest : Ends rest) (h : readMagnitude true (w ++ rest) = .ok (.natural n, after)) :
    w = Nat.toDigits 10 n ∧ after = rest := by
  obtain ⟨-, -, hn, hafter, hfollow⟩ := of_readMagnitude h
  cases hw with
  | @mk whole fraction exponent hwhole hfraction hexponent =>
      have hhead := head?_fraction hfraction (head?_exponent hexponent hrest)
      obtain ⟨htake, hdrop⟩ := takeWhile_digits hwhole.1.2 hhead
      rw [List.append_assoc, List.append_assoc] at hn hafter
      rw [htake] at hn
      rw [hdrop] at hafter
      subst hafter
      cases hfraction with
      | digits => exact absurd rfl (hfollow '.' rfl).1
      | none =>
          cases hexponent with
          | @digits mark _ _ hmark =>
              obtain ⟨-, hlower, hupper⟩ := hfollow mark rfl
              exact absurd hmark (not_or.mpr ⟨hlower, hupper⟩)
          | none =>
              have hdigits := Text.digits?_eq hwhole.1.2 hwhole.1.1
              rw [List.nil_append, List.append_nil, hn, Text.toDigits_of_digits? hdigits hwhole.2]
              exact ⟨rfl, rfl⟩

/-- **`decodes_nat`** — a number is read from its digits. -/
theorem decodes_nat {bound : Nat} (hbound : bound ≤ Text.wordBound) :
    Decodes (readNat bound) fun v n => v = Nat.toDigits 10 n ∧ n < bound := by
  intro v hv b rest n after hb hrest
  constructor
  · intro hread
    obtain ⟨hn, hmagnitude⟩ := of_readNat hread
    rw [(starts_value hv).skipSpace hb] at hmagnitude
    cases hv with
    | number hw =>
        obtain ⟨hdigits, hafter⟩ := eq_toDigits_of_readMagnitude hw hrest hmagnitude
        exact ⟨⟨hdigits, hn⟩, hafter⟩
    | _ => exact absurd rfl (of_readMagnitude hmagnitude).2.1
  · rintro ⟨⟨rfl, hn⟩, rfl⟩
    exact reads_toDigits hn hbound b after hb hrest

end LanCensus.Json
