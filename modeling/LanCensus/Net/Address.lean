/-
# LanCensus.Net.Address -- IPv4 addresses

An address is four octets. It is the identity of a device, so addresses are ordered, and the order
is that of the number the octets spell. Written addresses are dotted quads without leading zeros.
-/

import LanCensus.Text.Blank
import LanCensus.Text.Number

namespace LanCensus

/-- **`Address`** — an IPv4 address. -/
structure Address where
  first : UInt8
  second : UInt8
  third : UInt8
  last : UInt8
  deriving DecidableEq, Repr, Inhabited

namespace Address

/-! ## Order -/

/-- The number that the four octets spell. -/
def toNat (a : Address) : Nat :=
  ((a.first.toNat * 256 + a.second.toNat) * 256 + a.third.toNat) * 256 + a.last.toNat

theorem toNat_inj {a b : Address} (h : a.toNat = b.toNat) : a = b := by
  have h1 := a.first.toNat_lt
  have h2 := a.second.toNat_lt
  have h3 := a.third.toNat_lt
  have h4 := a.last.toNat_lt
  have h5 := b.first.toNat_lt
  have h6 := b.second.toNat_lt
  have h7 := b.third.toNat_lt
  have h8 := b.last.toNat_lt
  simp only [toNat] at h
  cases a
  cases b
  simp only [mk.injEq, ← UInt8.toNat_inj] at *
  omega

/-- The address whose octets spell a number. -/
def ofNat (n : Nat) : Address :=
  ⟨(n / 16777216).toUInt8, (n / 65536).toUInt8, (n / 256).toUInt8, n.toUInt8⟩

/-! ## Text -/

/-- The dotted quad. -/
def text (a : Address) : String :=
  s!"{a.first.toNat}.{a.second.toNat}.{a.third.toNat}.{a.last.toNat}"

instance : ToString Address := ⟨text⟩

/-- An octet as it stands in a dotted quad: one to three digits, no leading zero. -/
def octet? (s : List Char) : Option UInt8 :=
  if s.length > 3 ∨ (s.length > 1 ∧ s.head? = some '0') then none
  else ((Text.digits? 10 s).filter (· < 256)).map (·.toUInt8)

/-- **`parse? s`** — the address that a dotted quad names. -/
def parse? (s : List Char) : Option Address :=
  match Text.splitAt '.' s with
  | [a, b, c, d] => do
    return ⟨← octet? a, ← octet? b, ← octet? c, ← octet? d⟩
  | _ => none

/-- The address that a string names. -/
def ofString? (s : String) : Option Address := parse? s.toList

/-! ## Kinds of addresses -/

/-- An address of the host itself, 127.0.0.0/8. -/
def isLoopback (a : Address) : Bool := a.first == 127

/-- An address that a host gave itself, 169.254.0.0/16. -/
def isLinkLocal (a : Address) : Bool := a.first == 169 && a.second == 254

/-- The address 0.0.0.0. -/
def isUnspecified (a : Address) : Bool := a == ⟨0, 0, 0, 0⟩

end Address

end LanCensus
