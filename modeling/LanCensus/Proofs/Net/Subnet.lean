/-
# LanCensus.Proofs.Net.Subnet -- which texts name a subnet

A name of a subnet is three octets with dots between them and any blanks around the whole, each octet written with
decimal digits and perhaps a plus sign in front (`IsNamed`). These are the texts that are read, and what is read is
the subnet they name (`parse?_eq_some_iff`). In particular the plain name of a subnet is read, so plain names tell
subnets apart, and a fixed list is accepted exactly if every element of it is a name (`fixedSubnets_eq_ok_iff`).
-/

import LanCensus.Net.Subnet
import LanCensus.Proofs.Net.Address
import LanCensus.Proofs.Text.Blank

namespace LanCensus

namespace Text

variable {s ds : List Char} {n bound : Nat}

theorem digits?_eq_some_iff : digits? 10 ds = some n ↔
    ds ≠ [] ∧ (∀ c ∈ ds, c.isDigit = true) ∧ Nat.ofDigitChars 10 ds 0 = n := by
  constructor
  · intro h
    have hne : ds ≠ [] := by
      rintro rfl
      cases h
    have hdigits : ∀ c ∈ ds, c.isDigit = true := by
      rw [digits?, if_neg (by rwa [List.isEmpty_iff])] at h
      exact isDigit_of_digitsFrom h
    rw [digits?_eq hdigits hne] at h
    exact ⟨hne, hdigits, Option.some.inj h⟩
  · rintro ⟨hne, hdigits, rfl⟩
    exact digits?_eq hdigits hne

/-- Digits in front of which there may be a plus sign. -/
theorem dropPlus_of_isDigit (h : ∀ c ∈ ds, c.isDigit = true) (hs : s = ds ∨ s = '+' :: ds) :
    dropPlus s = ds := by
  rcases hs with rfl | rfl
  · unfold dropPlus
    split
    · have hplus := h '+' List.mem_cons_self
      cases hplus
    · rfl
  · rfl

theorem eq_or_cons_dropPlus (s : List Char) : s = dropPlus s ∨ s = '+' :: dropPlus s := by
  unfold dropPlus
  split
  · exact .inr rfl
  · exact .inl rfl

/-- A number below a bound is written with digits, and perhaps with a plus sign. -/
theorem unsigned?_eq_some_iff : unsigned? 10 bound s = some n ↔ n < bound ∧ ∃ ds, (s = ds ∨ s = '+' :: ds) ∧
    ds ≠ [] ∧ (∀ c ∈ ds, c.isDigit = true) ∧ Nat.ofDigitChars 10 ds 0 = n := by
  rw [unsigned?, Option.filter_eq_some_iff, digits?_eq_some_iff, decide_eq_true_iff]
  constructor
  · rintro ⟨hdigits, hlt⟩
    exact ⟨hlt, dropPlus s, eq_or_cons_dropPlus s, hdigits⟩
  · rintro ⟨hlt, ds, hs, hne, hdigits, hvalue⟩
    rw [dropPlus_of_isDigit hdigits hs]
    exact ⟨⟨hne, hdigits, hvalue⟩, hlt⟩

end Text

namespace Subnet

open Text (IsBare allBlank isBlank)

variable {s : List Char} {b : UInt8} {n : Subnet} {text : String}

/-! ## Octets -/

/-- **`WritesOctet s b`** — the text is a run of decimal digits, perhaps with a plus sign in front of it, and its
value is the octet. -/
def WritesOctet (s : List Char) (b : UInt8) : Prop :=
  ∃ ds, (s = ds ∨ s = '+' :: ds) ∧ ds ≠ [] ∧ (∀ c ∈ ds, c.isDigit = true) ∧
    Nat.ofDigitChars 10 ds 0 = b.toNat

theorem octet?_eq_some_iff : octet? s = some b ↔ WritesOctet s b := by
  rw [octet?, Option.map_eq_some_iff]
  constructor
  · rintro ⟨n, hn, rfl⟩
    obtain ⟨hlt, hdigits⟩ := Text.unsigned?_eq_some_iff.mp hn
    have hvalue : n.toUInt8.toNat = n := UInt8.toNat_ofNat_of_lt' hlt
    rw [WritesOctet, hvalue]
    exact hdigits
  · intro h
    refine ⟨b.toNat, Text.unsigned?_eq_some_iff.mpr ⟨b.toNat_lt, h⟩, ?_⟩
    apply UInt8.toNat_inj.mp
    exact UInt8.toNat_ofNat_of_lt' b.toNat_lt

/-- The decimal digits of an octet. -/
theorem writesOctet_toDigits (b : UInt8) : WritesOctet (Nat.toDigits 10 b.toNat) b :=
  ⟨_, .inl rfl, Nat.toDigits_ne_nil, Text.isDigit_of_mem_toDigits, Nat.ofDigitChars_ten_toDigits⟩

theorem WritesOctet.ne_nil (h : WritesOctet s b) : s ≠ [] := by
  obtain ⟨ds, rfl | rfl, hne, -⟩ := h
  · exact hne
  · exact List.cons_ne_nil '+' ds

/-- A written octet has no dots and no blanks. -/
theorem WritesOctet.solid (h : WritesOctet s b) : ∀ c ∈ s, c ≠ '.' ∧ isBlank c = false := by
  obtain ⟨ds, hs, -, hdigits, -⟩ := h
  have hdigit : ∀ c ∈ ds, c ≠ '.' ∧ isBlank c = false := by
    intro c hc
    refine ⟨?_, Text.isBlank_of_isDigit (hdigits c hc)⟩
    rintro rfl
    exact absurd (hdigits _ hc) (by decide)
  rcases hs with rfl | rfl
  · exact hdigit
  · exact List.forall_mem_cons.mpr ⟨by decide, hdigit⟩

/-! ## Names -/

/-- **`n.IsNamed text`** — the text names the subnet: its three octets with dots between them, and blanks around
the whole. -/
def IsNamed (n : Subnet) (text : String) : Prop :=
  ∃ lead p q r trail, allBlank lead = true ∧ allBlank trail = true ∧
    WritesOctet p n.first ∧ WritesOctet q n.second ∧ WritesOctet r n.third ∧
    text.toList = lead ++ (p ++ '.' :: (q ++ '.' :: r)) ++ trail

/-- **`parse?_eq_some_iff`** — the texts that are read as a subnet are its names. -/
theorem parse?_eq_some_iff : parse? text = some n ↔ n.IsNamed text := by
  constructor
  · intro h
    unfold parse? at h
    split at h
    · next p q r hsplit =>
      obtain ⟨b₁, h₁, h⟩ := Option.bind_eq_some_iff.mp h
      obtain ⟨b₂, h₂, h⟩ := Option.bind_eq_some_iff.mp h
      obtain ⟨b₃, h₃, h⟩ := Option.bind_eq_some_iff.mp h
      cases h
      obtain ⟨lead, trail, hlead, htrail, htext⟩ := Text.exists_trim text.toList
      refine ⟨lead, p, q, r, trail, hlead, htrail, octet?_eq_some_iff.mp h₁, octet?_eq_some_iff.mp h₂,
        octet?_eq_some_iff.mp h₃, ?_⟩
      rw [htext, Text.append_of_splitAt hsplit]
      simp
    · cases h
  · rintro ⟨lead, p, q, r, trail, hlead, htrail, hp, hq, hr, htext⟩
    have hbare : IsBare (p ++ '.' :: (q ++ '.' :: r)) := by
      have hshape : p ++ '.' :: (q ++ '.' :: r) = p ++ ('.' :: q ++ ['.']) ++ r := by simp
      rw [hshape, Text.isBare_append hp.ne_nil hr.ne_nil]
      constructor
      · intro c hc
        exact (hp.solid c (List.mem_of_mem_head? hc)).2
      · intro c hc
        exact (hr.solid c (List.mem_of_getLast? hc)).2
    have hnoDot {s : List Char} {b : UInt8} (hs : WritesOctet s b) : '.' ∉ s := by
      intro hmem
      exact (hs.solid '.' hmem).1 rfl
    have hsplit : Text.splitAt '.' (Text.trim text.toList) = [p, q, r] := by
      rw [htext, Text.trim_append hlead htrail hbare, Text.splitAt_append_of_not_mem (hnoDot hp),
        Text.splitAt_append_of_not_mem (hnoDot hq), Text.splitAt_of_not_mem (hnoDot hr)]
    unfold parse?
    simp only [hsplit, octet?_eq_some_iff.mpr hp, octet?_eq_some_iff.mpr hq, octet?_eq_some_iff.mpr hr, bind,
      Option.bind]
    rfl

/-- Any other text is an error, which mentions it. -/
theorem read_eq (text : String) :
    (∀ n, read text = .ok n ↔ n.IsNamed text) ∧
      ((¬ ∃ n : Subnet, n.IsNamed text) → read text = .error (.invalid text)) := by
  unfold read
  cases hparse : parse? text with
  | some m =>
      refine ⟨fun n => ?_, fun hnone => ?_⟩
      · rw [← parse?_eq_some_iff, hparse, Except.ok.injEq, Option.some.injEq]
      · exact absurd ⟨m, parse?_eq_some_iff.mp hparse⟩ hnone
  | none =>
      refine ⟨fun n => ?_, fun _ => rfl⟩
      rw [← parse?_eq_some_iff, hparse]
      simp

theorem toList_name (n : Subnet) : n.name.toList =
    Nat.toDigits 10 n.first.toNat ++ '.' :: (Nat.toDigits 10 n.second.toNat ++
      '.' :: Nat.toDigits 10 n.third.toNat) := by
  have hdot : (toString ".").toList = ['.'] := rfl
  simp [name, hdot]

/-- A subnet is named by its plain name. -/
theorem isNamed_name (n : Subnet) : n.IsNamed n.name :=
  ⟨[], _, _, _, [], rfl, rfl, writesOctet_toDigits n.first, writesOctet_toDigits n.second,
    writesOctet_toDigits n.third, by rw [toList_name, List.nil_append, List.append_nil]⟩

theorem parse?_name (n : Subnet) : parse? n.name = some n := parse?_eq_some_iff.mpr (isNamed_name n)

theorem host_ofAddress (a : Address) : (ofAddress a).host a.last = a := rfl

/-- An address of the subnet is written as the name of the subnet, a dot and the last octet. -/
theorem text_host (n : Subnet) (last : UInt8) : (n.host last).text = s!"{n.name}.{last.toNat}" := by
  apply String.toList_inj.mp
  have hdot : (toString ".").toList = ['.'] := rfl
  have hname : (toString n.name).toList = n.name.toList := rfl
  simp [Address.toList_text, host, hdot, hname, toList_name]

end Subnet

/-! ## Fixed lists -/

/-- **`fixedSubnets_eq_ok_iff`** — a list is accepted, as it is, exactly if all of its elements are names. -/
theorem fixedSubnets_eq_ok_iff {names kept : List String} : fixedSubnets names = .ok kept ↔
    kept = names ∧ ∀ name ∈ names, ∃ n : Subnet, n.IsNamed name := by
  induction names generalizing kept with
  | nil => simp [fixedSubnets, eq_comm]
  | cons name rest ih =>
      rw [List.forall_mem_cons, fixedSubnets]
      cases hname : Subnet.read name with
      | error e =>
          refine iff_of_false nofun ?_
          rintro ⟨-, ⟨n, hn⟩, -⟩
          cases ((Subnet.read_eq name).1 n).mpr hn ▸ hname
      | ok n =>
          have hn : n.IsNamed name := ((Subnet.read_eq name).1 n).mp hname
          cases hrest : fixedSubnets rest with
          | error e =>
              refine iff_of_false nofun ?_
              rintro ⟨-, -, hall⟩
              cases (ih.mpr ⟨rfl, hall⟩).symm.trans hrest
          | ok more =>
              obtain ⟨rfl, hall⟩ := ih.mp hrest
              show Except.ok (name :: more) = .ok kept ↔ _
              rw [Except.ok.injEq]
              constructor
              · rintro rfl
                exact ⟨rfl, ⟨n, hn⟩, hall⟩
              · rintro ⟨rfl, -⟩
                rfl

/-- The first element that is no name is the error. -/
theorem fixedSubnets_eq_error {front rest : List String} {name : String}
    (hfront : ∀ x ∈ front, ∃ n : Subnet, n.IsNamed x) (hname : ¬ ∃ n : Subnet, n.IsNamed name) :
    fixedSubnets (front ++ name :: rest) = .error (.invalid name) := by
  induction front with
  | nil => rw [List.nil_append, fixedSubnets, (Subnet.read_eq name).2 hname]; rfl
  | cons x front ih =>
      obtain ⟨⟨n, hn⟩, hfront⟩ := List.forall_mem_cons.mp hfront
      rw [List.cons_append, fixedSubnets, ((Subnet.read_eq x).1 n).mpr hn, ih hfront]
      rfl

end LanCensus
