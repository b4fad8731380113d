/-
# LanCensus.Proofs.Inventory.Upkeep -- an inventory through its changes

An inventory starts out empty, and from then on five kinds of change are made to it, in any order and
with any records: saved records are restored, a probe result is absorbed, one device or every device
is taken offline, and an address is removed (`Inventory.Change`). Whatever the changes were, the
inventory is intact (`Inventory.IsIntact`): its copy is in strictly ascending order and holds what
look-up finds.

Only a removal takes an address out. Until then `Inventory.Keeps` links the records of the address:
one is there, and it was last seen no earlier than the one before. Restoring puts a record in the place
of another and absorbing merges one into it, so each of the two has its own reason to keep the time.
-/

import LanCensus.Proofs.Inventory.Contest

namespace LanCensus

namespace AddressMap

variable {α : Type}

/-- In order, no earlier entry hides an entry from look-up. -/
theorem lookup_of_mem {e : Address × α} {es : List (Address × α)}
    (h : es.Pairwise fun x y => x.1.toNat < y.1.toNat) (he : e ∈ es) :
    lookup e.1 es = some e.2 := by
  induction es with
  | nil => cases he
  | cons x es ih =>
      obtain ⟨hx, hes⟩ := List.pairwise_cons.mp h
      rcases List.mem_cons.mp he with rfl | he
      · exact lookup_head e es
      · have hne : e.1 ≠ x.1 := by
          intro heq
          have := hx e he
          rw [heq] at this
          exact Nat.lt_irrefl _ this
        rw [lookup, if_neg hne]
        exact ih hes he

end AddressMap

namespace Inventory

/-! ## Changes -/

/-- **`Change`** — what is done to an inventory. -/
inductive Change
  | restore (saved : List Device)
  | absorb (probed : Device)
  | offline (a : Address)
  | allOffline
  | remove (a : Address)
  deriving DecidableEq, Repr

/-- The address that a change is about, if it is about one alone. -/
def Change.address? : Change → Option Address
  | .absorb d => some d.address
  | .offline a | .remove a => some a
  | .restore _ | .allOffline => none

/-- The inventory after a change. -/
def change (r : Inventory) : Change → Inventory
  | .restore ds => r.restore ds
  | .absorb d => r.absorb d
  | .offline a => r.offline a
  | .allOffline => r.allOffline
  | .remove a => r.remove a

/-- The inventory after changes, the first of the list made first. -/
def after (r : Inventory) (cs : List Change) : Inventory := cs.foldl change r

@[simp]
theorem after_nil (r : Inventory) : r.after [] = r := rfl

@[simp]
theorem after_cons (r : Inventory) (c : Change) (cs : List Change) :
    r.after (c :: cs) = (r.change c).after cs := rfl

theorem after_append (r : Inventory) (cs later : List Change) :
    r.after (cs ++ later) = (r.after cs).after later := List.foldl_append

/-! ## Intact inventories -/

/-- **`IsIntact r`** — each record stands under its own address, and the copy of the inventory holds
one record for an address, in ascending order, as look-up and the number of devices have it. -/
structure IsIntact (r : Inventory) : Prop where
  keyed : ∀ a d, r.find? a = some d → d.address = a
  ascending : r.toList.Pairwise fun d e => d.address.toNat < e.address.toNat
  found : ∀ a, r.find? a = r.toList.find? fun d => d.address = a
  counted : r.size = r.toList.length

/-- Look-up by key finds the first value that bears the key. -/
theorem lookup_eq_find? {es : List (Address × Device)} (h : ∀ e ∈ es, e.2.address = e.1)
    (a : Address) :
    AddressMap.lookup a es = (es.map (·.2)).find? fun d => d.address = a := by
  induction es with
  | nil => rfl
  | cons e es ih =>
      have hrest := ih fun x hx => h x (List.mem_cons_of_mem _ hx)
      have he : e.2.address = e.1 := h e List.mem_cons_self
      rw [AddressMap.lookup, List.map_cons, List.find?_cons, hrest, he]
      by_cases ha : a = e.1
      · simp [ha]
      · simp [ha, Ne.symm ha]

namespace IsSound

variable {r : Inventory}

/-- Every entry bears the address of its record. -/
theorem address_of_mem (h : r.IsSound) {e : Address × Device} (he : e ∈ r.devices.entries) :
    e.2.address = e.1 :=
  h.keyed _ _ (AddressMap.lookup_of_mem h.ordered he)

theorem isIntact (h : r.IsSound) : r.IsIntact where
  keyed := h.keyed
  ascending := by
    refine List.pairwise_map.mpr (List.Pairwise.imp_of_mem (fun hx hy hlt => ?_) h.ordered)
    rw [h.address_of_mem hx, h.address_of_mem hy]
    exact hlt
  found := lookup_eq_find? fun _ he => h.address_of_mem he
  counted := (List.length_map ..).symm

theorem change (h : r.IsSound) (c : Change) : (r.change c).IsSound := by
  cases c with
  | restore ds => exact h.restore ds
  | absorb d => exact h.absorb d
  | offline a => exact h.offline a
  | allOffline => exact h.allOffline
  | remove a => exact h.remove a

theorem after (h : r.IsSound) (cs : List Change) : (r.after cs).IsSound := by
  induction cs generalizing r with
  | nil => exact h
  | cons c cs ih => exact ih (h.change c)

end IsSound

/-! ## Records that stay -/

/-- **`Keeps a r r'`** — a record of the address in `r` is followed by one in `r'` that was last seen
at the same time or later. -/
def Keeps (a : Address) (r r' : Inventory) : Prop :=
  ∀ d, r.find? a = some d → ∃ e, r'.find? a = some e ∧ d.lastSeen ≤ e.lastSeen

namespace Keeps

variable {a : Address} {r r' r'' : Inventory}

theorem refl (a : Address) (r : Inventory) : Keeps a r r :=
  fun d hd => ⟨d, hd, Instant.le_refl _⟩

theorem trans (h : Keeps a r r') (h' : Keeps a r' r'') : Keeps a r r'' := by
  intro d hd
  obtain ⟨e, he, hde⟩ := h d hd
  obtain ⟨f, hf, hef⟩ := h' e he
  exact ⟨f, hf, Instant.le_trans hde hef⟩

theorem of_eq (h : r'.find? a = r.find? a) : Keeps a r r' :=
  fun d hd => ⟨d, h.trans hd, Instant.le_refl _⟩

/-- To be offline is not to have been seen. -/
theorem of_map_offline (h : r'.find? a = (r.find? a).map Device.offline) : Keeps a r r' := by
  intro d hd
  refine ⟨d.offline, ?_, Instant.le_refl _⟩
  rw [h, hd, Option.map_some]

end Keeps

variable (r : Inventory) (a : Address)

/-- What stands was seen no earlier than the record that it has contended with. -/
theorem keeps_restore (ds : List Device) : Keeps a r (r.restore ds) := by
  intro known hknown
  have hclaims : known ∈ r.claimants ds a := mem_claimants.mpr (.inl hknown)
  cases hfound : (r.restore ds).find? a with
  | none =>
      rw [find?_restore_eq_none.mp hfound] at hclaims
      cases hclaims
  | some d => exact ⟨d, rfl, (find?_restore_eq_some.mp hfound).le hclaims⟩

/-- A probe result is merged into the record, whatever its own time. -/
theorem keeps_absorb (d : Device) : Keeps a r (r.absorb d) := by
  by_cases ha : a = d.address
  · subst ha
    intro known hknown
    refine ⟨known.merge d, ?_, Instant.le_later _ _⟩
    rw [find?_absorb, if_pos rfl, merged, hknown]
  · exact Keeps.of_eq (by rw [find?_absorb, if_neg ha])

theorem keeps_offline (b : Address) : Keeps a r (r.offline b) := by
  by_cases ha : a = b
  · exact Keeps.of_map_offline (by rw [find?_offline, if_pos ha, ha])
  · exact Keeps.of_eq (by rw [find?_offline, if_neg ha])

/-- Every change keeps the record of an address that it does not remove. -/
theorem keeps_change {c : Change} (hc : c ≠ .remove a) : Keeps a r (r.change c) := by
  cases c with
  | restore ds => exact keeps_restore r a ds
  | absorb d => exact keeps_absorb r a d
  | offline b => exact keeps_offline r a b
  | allOffline => exact Keeps.of_map_offline (find?_allOffline r a)
  | remove b =>
      have hne : a ≠ b := fun h => hc (by rw [h])
      exact Keeps.of_eq (by rw [change, find?_remove, if_neg hne])

/-- By induction on the changes, each of which keeps the record that the one before it left. -/
theorem keeps_after {cs : List Change} (hcs : Change.remove a ∉ cs) : Keeps a r (r.after cs) := by
  induction cs generalizing r with
  | nil => exact Keeps.refl a r
  | cons c cs ih =>
      have hc : c ≠ .remove a := fun h => hcs (h ▸ List.mem_cons_self)
      have hrest : Change.remove a ∉ cs := fun h => hcs (List.mem_cons_of_mem _ h)
      exact (keeps_change r a hc).trans (ih (r.change c) hrest)

/-- A change about one address leaves the records of the others alone. -/
theorem find?_change_of_ne {c : Change} {b : Address} (hc : c.address? = some b) (h : a ≠ b) :
    (r.change c).find? a = r.find? a := by
  cases c with
  | restore ds => cases hc
  | allOffline => cases hc
  | absorb d =>
      cases hc
      exact (find?_absorb r d a).trans (if_neg h)
  | offline b =>
      cases hc
      exact (find?_offline r _ a).trans (if_neg h)
  | remove b =>
      cases hc
      exact (find?_remove r _ a).trans (if_neg h)

/-! ## Upkeep -/

/-- **`empty_after`** — an inventory is intact after any changes to the empty one; a record of it stays
until its address is removed, and its time never goes back; and a change about one address leaves the
records of all others as they are. -/
theorem empty_after (cs : List Change) :
    (empty.after cs).IsIntact ∧
      (∀ a d later, (empty.after cs).find? a = some d → Change.remove a ∉ later →
        ∃ e, (empty.after (cs ++ later)).find? a = some e ∧ d.lastSeen ≤ e.lastSeen) ∧
      ∀ c a b, c.address? = some b → a ≠ b →
        (empty.after (cs ++ [c])).find? a = (empty.after cs).find? a := by
  refine ⟨(isSound_empty.after cs).isIntact, fun a d later hd hlater => ?_, fun c a b hc h => ?_⟩
  · rw [after_append]
    exact keeps_after (empty.after cs) a hlater d hd
  · rw [after_append]
    exact find?_change_of_ne (empty.after cs) a hc h

/-- Two devices, one of them taken offline, and a saved record from before it was seen. -/
def smallUpkeep : List Change :=
  [.absorb (.answering ⟨10, 0, 0, 9⟩ ⟨50, 0⟩ .zero),
   .absorb (.answering ⟨10, 0, 0, 2⟩ ⟨60, 0⟩ .zero),
   .offline ⟨10, 0, 0, 9⟩,
   .restore [.fresh ⟨10, 0, 0, 9⟩ ⟨40, 0⟩]]

/-- The saved record and a later probe result of an earlier time leave the time of the device, and the
removal of the other leaves its record. -/
theorem smallUpkeep_after :
    (empty.after smallUpkeep).IsIntact ∧
      (∃ e, (empty.after (smallUpkeep ++ [.absorb (.answering ⟨10, 0, 0, 9⟩ ⟨45, 0⟩ .zero)])).find?
          ⟨10, 0, 0, 9⟩ = some e ∧ (⟨50, 0⟩ : Instant) ≤ e.lastSeen) ∧
      (empty.after (smallUpkeep ++ [.remove ⟨10, 0, 0, 2⟩])).find? ⟨10, 0, 0, 9⟩ =
        some (Device.fresh ⟨10, 0, 0, 9⟩ ⟨50, 0⟩) :=
  have h := empty_after smallUpkeep
  ⟨h.1,
   h.2.1 _ (.fresh ⟨10, 0, 0, 9⟩ ⟨50, 0⟩) _ (by decide +kernel) (by decide +kernel),
   (h.2.2 _ ⟨10, 0, 0, 9⟩ _ rfl (by decide)).trans (by decide +kernel)⟩

end Inventory

end LanCensus
