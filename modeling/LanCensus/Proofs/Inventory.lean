/-
# LanCensus.Proofs.Inventory -- records under their own addresses

A map keeps its entries in ascending order of their addresses, so two maps that answer every look-up
alike are equal (`AddressMap.ext_of_ordered`). Of an inventory more is true: each record stands under
its own address. `Inventory.IsSound` says both. The empty inventory is sound and so is whatever the
operations make of a sound one, an inventory of restored records in particular.

What an operation does to the records is said by look-up, address by address.
-/

import LanCensus.Inventory
import Mathlib.Logic.Basic

namespace LanCensus

/-! ## Maps in order -/

namespace AddressMap

variable {α : Type}

theorem lookup_eq_none {a : Address} {es : List (Address × α)}
    (h : ∀ e ∈ es, a.toNat < e.1.toNat) : lookup a es = none := by
  induction es with
  | nil => rfl
  | cons e es ih =>
      have hlt := h e List.mem_cons_self
      have hne : a ≠ e.1 := by
        intro he
        rw [he] at hlt
        exact Nat.lt_irrefl _ hlt
      rw [lookup, if_neg hne]
      exact ih fun x hx => h x (List.mem_cons_of_mem _ hx)

theorem lookup_head (e : Address × α) (es : List (Address × α)) :
    lookup e.1 (e :: es) = some e.2 := if_pos rfl

/-- The first addresses of two lists that answer alike are not before one another. -/
theorem head_le {e e' : Address × α} {es es' : List (Address × α)}
    (h' : (e' :: es').Pairwise fun x y => x.1.toNat < y.1.toNat)
    (he : ∀ a, lookup a (e :: es) = lookup a (e' :: es')) : e'.1.toNat ≤ e.1.toNat := by
  apply Nat.le_of_not_lt
  intro hlt
  have hfirst : ∀ x ∈ e' :: es', e.1.toNat < x.1.toNat := by
    intro x hx
    rcases List.mem_cons.mp hx with rfl | hx
    · omega
    · have := List.rel_of_pairwise_cons h' hx
      omega
  have hsome := lookup_head e es
  rw [he, lookup_eq_none hfirst] at hsome
  cases hsome

theorem eq_of_lookup {es es' : List (Address × α)}
    (h : es.Pairwise fun x y => x.1.toNat < y.1.toNat)
    (h' : es'.Pairwise fun x y => x.1.toNat < y.1.toNat)
    (he : ∀ a, lookup a es = lookup a es') : es = es' := by
  induction es generalizing es' with
  | nil =>
      cases es' with
      | nil => rfl
      | cons e' es' =>
          cases (he e'.1).trans (lookup_head e' es')
  | cons e es ih =>
      cases es' with
      | nil => cases (lookup_head e es).symm.trans (he e.1)
      | cons e' es' =>
          have hkey : e.1 = e'.1 :=
            Address.toNat_inj (Nat.le_antisymm (head_le h fun a => (he a).symm) (head_le h' he))
          have hhead : e = e' := by
            have hv := (lookup_head e es).symm.trans (he e.1)
            rw [hkey, lookup_head] at hv
            exact Prod.ext hkey (Option.some.inj hv)
          subst hhead
          rw [List.pairwise_cons] at h h'
          rw [ih h.2 h'.2 fun a => ?_]
          -- The address of the head occurs in neither tail.
          by_cases ha : a = e.1
          · rw [ha, lookup_eq_none h.1, lookup_eq_none h'.1]
          · have := he a
            rwa [lookup, if_neg ha, lookup, if_neg ha] at this

/-- **`ext_of_ordered`** — maps that are in order and answer every look-up alike are equal. -/
theorem ext_of_ordered {m m' : AddressMap α} (h : m.Ordered) (h' : m'.Ordered)
    (he : ∀ a, m.get? a = m'.get? a) : m = m' :=
  congrArg AddressMap.mk (eq_of_lookup h h' he)

theorem mem_put {a : Address} {x : α} {es : List (Address × α)} {e : Address × α}
    (h : e ∈ put a x es) : e = (a, x) ∨ e ∈ es := by
  induction es with
  | nil => exact .inl (List.mem_singleton.mp h)
  | cons b es ih =>
      rw [put] at h
      split at h
      · exact (List.mem_cons.mp h).imp_right (List.mem_cons_of_mem _)
      · split at h
        · exact List.mem_cons.mp h
        · rcases List.mem_cons.mp h with rfl | h
          · exact .inr List.mem_cons_self
          · exact (ih h).imp_right (List.mem_cons_of_mem _)

theorem pairwise_put (a : Address) (x : α) {es : List (Address × α)}
    (h : es.Pairwise fun x y => x.1.toNat < y.1.toNat) :
    (put a x es).Pairwise fun x y => x.1.toNat < y.1.toNat := by
  induction es with
  | nil => exact List.pairwise_singleton _ _
  | cons b es ih =>
      obtain ⟨hb, hes⟩ := List.pairwise_cons.mp h
      rw [put]
      split
      · next hab =>
        rw [hab]
        exact List.pairwise_cons.mpr ⟨hb, hes⟩
      · next hab =>
        split
        · next hlt =>
          refine List.pairwise_cons.mpr ⟨fun e he => ?_, h⟩
          rcases List.mem_cons.mp he with rfl | he
          · exact hlt
          · exact Nat.lt_trans hlt (hb e he)
        · next hlt =>
          refine List.pairwise_cons.mpr ⟨fun e he => ?_, ih hes⟩
          rcases mem_put he with rfl | he
          · have hne : a.toNat ≠ b.1.toNat := fun hn => hab (Address.toNat_inj hn)
            show b.1.toNat < a.toNat
            omega
          · exact hb e he

theorem Ordered.insert {m : AddressMap α} (h : m.Ordered) (a : Address) (x : α) :
    (m.insert a x).Ordered := pairwise_put a x h

theorem Ordered.erase {m : AddressMap α} (h : m.Ordered) (a : Address) : (m.erase a).Ordered :=
  List.Pairwise.filter _ h

theorem Ordered.map {β : Type} {m : AddressMap α} (h : m.Ordered) (f : α → β) :
    (m.map f).Ordered := List.pairwise_map.mpr h

end AddressMap

/-! ## Look-up after each operation of the inventory -/

namespace Inventory

theorem find?_store (r : Inventory) (d : Device) (a : Address) :
    (r.store d).find? a = if a = d.address then some d else r.find? a :=
  AddressMap.get?_insert ..

theorem find?_remove (r : Inventory) (b a : Address) :
    (r.remove b).find? a = if a = b then none else r.find? a :=
  AddressMap.get?_erase ..

theorem find?_absorb (r : Inventory) (d : Device) (a : Address) :
    (r.absorb d).find? a = if a = d.address then some (r.merged d) else r.find? a :=
  AddressMap.get?_insert ..

theorem find?_allOffline (r : Inventory) (a : Address) :
    r.allOffline.find? a = (r.find? a).map Device.offline :=
  AddressMap.get?_map ..

theorem find?_offline (r : Inventory) (b a : Address) :
    (r.offline b).find? a = if a = b then (r.find? b).map Device.offline else r.find? a := by
  unfold offline
  split
  · next known hk =>
    rw [hk]
    exact AddressMap.get?_insert ..
  · next hk =>
    rw [hk]
    split
    · next ha => rw [ha, hk, Option.map_none]
    · rfl

/-! ## Sound inventories -/

/-- **`IsSound r`** — the records are in order, and each stands under its own address. -/
structure IsSound (r : Inventory) : Prop where
  ordered : r.devices.Ordered
  keyed : ∀ a d, r.find? a = some d → d.address = a

/-- Sound inventories with the same records are equal. -/
theorem IsSound.ext {r r' : Inventory} (h : r.IsSound) (h' : r'.IsSound)
    (he : ∀ a, r.find? a = r'.find? a) : r = r' :=
  congrArg Inventory.mk (AddressMap.ext_of_ordered h.ordered h'.ordered he)

theorem isSound_empty : Inventory.empty.IsSound := ⟨List.Pairwise.nil, fun _ _ h => by cases h⟩

namespace IsSound

variable {r : Inventory}

/-- A record is put in under its own address. -/
theorem insert (h : r.IsSound) {d : Device} {b : Address} (hb : d.address = b) :
    IsSound ⟨r.devices.insert b d⟩ where
  ordered := h.ordered.insert b d
  keyed a e he := by
    rw [find?, AddressMap.get?_insert] at he
    split at he
    · next ha =>
      cases he
      rw [hb, ha]
    · exact h.keyed a e he

theorem store (h : r.IsSound) (d : Device) : (r.store d).IsSound := h.insert rfl

theorem merged_address (h : r.IsSound) (d : Device) : (r.merged d).address = d.address := by
  unfold merged
  split
  · next known hk =>
    show known.address = d.address
    exact h.keyed _ _ hk
  · rfl

theorem absorb (h : r.IsSound) (d : Device) : (r.absorb d).IsSound :=
  h.insert (h.merged_address d)

theorem offline (h : r.IsSound) (a : Address) : (r.offline a).IsSound := by
  unfold Inventory.offline
  split
  · next known hk => exact h.insert (h.keyed a known hk)
  · exact h

theorem remove (h : r.IsSound) (b : Address) : (r.remove b).IsSound where
  ordered := h.ordered.erase b
  keyed a d hd := by
    rw [find?_remove] at hd
    split at hd
    · cases hd
    · exact h.keyed a d hd

theorem allOffline (h : r.IsSound) : r.allOffline.IsSound where
  ordered := h.ordered.map _
  keyed a d hd := by
    rw [find?_allOffline] at hd
    obtain ⟨e, he, rfl⟩ := Option.map_eq_some_iff.mp hd
    exact h.keyed a e he

theorem restoreOne (h : r.IsSound) (d : Device) : (r.restoreOne d).IsSound := by
  unfold Inventory.restoreOne
  split
  · split
    · exact h
    · exact h.store d
  · exact h.store d

theorem restore (h : r.IsSound) (ds : List Device) : (r.restore ds).IsSound := by
  unfold Inventory.restore
  induction ds generalizing r with
  | nil => exact h
  | cons d ds ih => exact ih (h.restoreOne d)

end IsSound

end Inventory

end LanCensus
