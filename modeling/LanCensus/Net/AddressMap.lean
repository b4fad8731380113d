/-
# LanCensus.Net.AddressMap -- finite maps keyed by address

A map is a list of entries. Every operation keeps the entries in ascending order of their
addresses, one entry for each address, so two maps built by the operations hold the same entries
exactly when they answer every look-up alike.
-/

import LanCensus.Net.Address

namespace LanCensus

/-- **`AddressMap α`** — values by address. -/
structure AddressMap (α : Type) where
  entries : List (Address × α)
  deriving DecidableEq, Repr

namespace AddressMap

variable {α : Type}

/-- The map without entries. -/
def empty : AddressMap α := ⟨[]⟩

instance : Inhabited (AddressMap α) := ⟨empty⟩

/-- The values in ascending order of their addresses. -/
def values (m : AddressMap α) : List α := m.entries.map (·.2)

/-- The number of entries. -/
def size (m : AddressMap α) : Nat := m.entries.length

/-- Look-up in a list of entries. -/
def lookup (a : Address) : List (Address × α) → Option α
  | [] => none
  | (b, x) :: rest => if a = b then some x else lookup a rest

/-- The value of an address. -/
def get? (m : AddressMap α) (a : Address) : Option α := lookup a m.entries

/-- Whether the address has a value. -/
def contains (m : AddressMap α) (a : Address) : Bool := (m.get? a).isSome

/-- Puts an entry into its place in a list of entries. -/
def put (a : Address) (x : α) : List (Address × α) → List (Address × α)
  | [] => [(a, x)]
  | (b, y) :: rest =>
    if a = b then (a, x) :: rest
    else if a.toNat < b.toNat then (a, x) :: (b, y) :: rest
    else (b, y) :: put a x rest

/-- The map in which the address has the given value. -/
def insert (m : AddressMap α) (a : Address) (x : α) : AddressMap α := ⟨put a x m.entries⟩

/-- The map in which the address has no value. -/
def erase (m : AddressMap α) (a : Address) : AddressMap α :=
  ⟨m.entries.filter fun e => e.1 ≠ a⟩

/-- The map with every value changed by `f`. -/
def map {β : Type} (f : α → β) (m : AddressMap α) : AddressMap β :=
  ⟨m.entries.map fun e => (e.1, f e.2)⟩

/-- The entries stand in strictly ascending order of their addresses. -/
def Ordered (m : AddressMap α) : Prop :=
  m.entries.Pairwise fun e e' => e.1.toNat < e'.1.toNat

/-! ## Look-up after each operation -/

@[simp]
theorem get?_empty (a : Address) : (empty : AddressMap α).get? a = none := rfl

theorem lookup_put_self (a : Address) (x : α) (es : List (Address × α)) :
    lookup a (put a x es) = some x := by
  induction es with
  | nil => simp [put, lookup]
  | cons e rest ih =>
    obtain ⟨b, y⟩ := e
    by_cases h : a = b
    · simp [put, h, lookup]
    · by_cases hlt : a.toNat < b.toNat <;> simp [put, h, hlt, lookup, ih]

theorem lookup_put_of_ne {a b : Address} (h : b ≠ a) (x : α) (es : List (Address × α)) :
    lookup b (put a x es) = lookup b es := by
  induction es with
  | nil => simp [put, lookup, h]
  | cons e rest ih =>
    obtain ⟨c, y⟩ := e
    by_cases hc : a = c
    · subst hc
      simp [put, lookup, h]
    · by_cases hlt : a.toNat < c.toNat
      · simp [put, hc, hlt, lookup, h]
      · simp [put, hc, hlt, lookup, ih]

theorem get?_insert (m : AddressMap α) (a b : Address) (x : α) :
    (m.insert a x).get? b = if b = a then some x else m.get? b := by
  by_cases h : b = a
  · subst h
    simp [get?, insert, lookup_put_self]
  · simp [get?, insert, lookup_put_of_ne h, h]

theorem get?_erase (m : AddressMap α) (a b : Address) :
    (m.erase a).get? b = if b = a then none else m.get? b := by
  obtain ⟨es⟩ := m
  simp only [get?, erase]
  induction es with
  | nil => simp [lookup]
  | cons e rest ih =>
    obtain ⟨c, y⟩ := e
    by_cases hc : c = a
    · subst hc
      by_cases hb : b = c
      · subst hb
        simpa [lookup] using ih
      · simpa [lookup, hb] using ih
    · by_cases hb : b = c
      · subst hb
        simp [lookup, hc]
      · simpa [lookup, hc, hb] using ih

theorem get?_map {β : Type} (f : α → β) (m : AddressMap α) (a : Address) :
    (m.map f).get? a = (m.get? a).map f := by
  obtain ⟨es⟩ := m
  simp only [get?, map]
  induction es with
  | nil => simp [lookup]
  | cons e rest ih =>
    obtain ⟨c, y⟩ := e
    by_cases hc : a = c
    · simp [lookup, hc]
    · simpa [lookup, hc] using ih

end AddressMap

end LanCensus
