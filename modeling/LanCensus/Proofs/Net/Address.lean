/-
# LanCensus.Proofs.Net.Address -- an address is read from its dotted quad

Between the dots of a dotted quad stand the decimal digits of the octets, which have at most three
places and no zeros in front. So splitting at the dots finds the octets again, and no other text is
read as an address (`parse?_eq_some_iff`).
-/

import LanCensus.Net.Address
import LanCensus.Proofs.Text.Digits
import LanCensus.Proofs.Text.Pieces

namespace LanCensus

namespace Text

theorem dot_not_mem_toDigits (n : Nat) : '.' ∉ Nat.toDigits 10 n := fun h => by
  cases isDigit_of_mem_toDigits '.' h

end Text

namespace Address

/-- An octet is read from its digits. -/
theorem octet?_toDigits (b : UInt8) : octet? (Nat.toDigits 10 b.toNat) = some b := by
  have hlength : (Nat.toDigits 10 b.toNat).length ≤ 3 :=
    (Nat.length_toDigits_le_iff (by decide) (by decide)).mpr (Nat.lt_trans b.toNat_lt (by decide))
  have hzero : ¬ ((Nat.toDigits 10 b.toNat).length > 1 ∧ (Nat.toDigits 10 b.toNat).head? = some '0') := by
    rintro ⟨hlong, hhead⟩
    rcases Nat.eq_zero_or_pos b.toNat with hb | hb
    · rw [hb, Nat.toDigits_zero] at hlong
      exact absurd hlong (by decide)
    · exact Text.head?_toDigits hb hhead
  rw [octet?, if_neg (not_or.mpr ⟨Nat.not_lt.mpr hlength, hzero⟩), Text.digits?_toDigits]
  simp [b.toNat_lt]

/-- An octet is read from its digits only. -/
theorem toDigits_of_octet? {s : List Char} {b : UInt8} (h : octet? s = some b) :
    Nat.toDigits 10 b.toNat = s := by
  unfold octet? at h
  split at h
  · cases h
  · next hform =>
    obtain ⟨n, hn, rfl⟩ := Option.map_eq_some_iff.mp h
    obtain ⟨hread, hlt⟩ := Option.filter_eq_some_iff.mp hn
    have hval : n.toUInt8.toNat = n := UInt8.toNat_ofNat_of_lt' (of_decide_eq_true hlt)
    rw [hval]
    exact Text.toDigits_of_digits? hread fun hlong hzero => hform (.inr ⟨hlong, hzero⟩)

/-- The characters of a dotted quad. -/
theorem toList_text (a : Address) :
    a.text.toList = Nat.toDigits 10 a.first.toNat ++ '.' :: (Nat.toDigits 10 a.second.toNat ++
      '.' :: (Nat.toDigits 10 a.third.toNat ++ '.' :: Nat.toDigits 10 a.last.toNat)) := by
  have hdot : (toString ".").toList = ['.'] := rfl
  simp [text, hdot]

/-- **`ofString?_text`** — an address is read from its text. -/
theorem ofString?_text (a : Address) : ofString? a.text = some a := by
  have hdots (n : Nat) (t : List Char) :=
    Text.splitAt_append_of_not_mem (Text.dot_not_mem_toDigits n) t
  rw [ofString?, parse?, toList_text, hdots, hdots, hdots,
    Text.splitAt_of_not_mem (Text.dot_not_mem_toDigits _)]
  simp only [octet?_toDigits, bind, Option.bind]
  rfl

/-- Addresses are told apart by their texts. -/
theorem text_inj {a b : Address} : a.text = b.text ↔ a = b := by
  constructor
  · intro h
    exact Option.some.inj ((ofString?_text a).symm.trans ((congrArg ofString? h).trans (ofString?_text b)))
  · exact congrArg text

/-- **`parse?_eq_some_iff`** — a text is read as an address exactly if it is its dotted quad. -/
theorem parse?_eq_some_iff {s : List Char} {a : Address} : parse? s = some a ↔ s = a.text.toList := by
  constructor
  · intro h
    unfold parse? at h
    split at h
    · next p q r t hsplit =>
      obtain ⟨b₁, h₁, h⟩ := Option.bind_eq_some_iff.mp h
      obtain ⟨b₂, h₂, h⟩ := Option.bind_eq_some_iff.mp h
      obtain ⟨b₃, h₃, h⟩ := Option.bind_eq_some_iff.mp h
      obtain ⟨b₄, h₄, h⟩ := Option.bind_eq_some_iff.mp h
      cases h
      rw [Text.append_of_splitAt hsplit, toList_text, toDigits_of_octet? h₁, toDigits_of_octet? h₂,
        toDigits_of_octet? h₃, toDigits_of_octet? h₄]
      simp only [List.flatMap_cons, List.flatMap_nil, List.append_nil, List.cons_append]
    · cases h
  · rintro rfl
    exact ofString?_text a

end Address

end LanCensus
