/-
# LanCensus.Proofs.Inventory.Contest -- what a look-up finds after saved records were restored

Saved records are restored one after another, and a list of them may name a device many times, with
times in any order and equal ones among them. What stands for an address in the end depends on that
address alone: it is what a look-up finds after each listed record of the address has contended with
the record before it (`Inventory.find?_restore`). The record that wins every contest is the first of
the latest (`IsLatest`).
-/

import LanCensus.Proofs.Instants
import LanCensus.Proofs.Inventory

namespace LanCensus

/-! ## The first of the latest -/

/-- **`IsLatest d ds`** — no record of the list was seen later than this one, and none that stands
before it was seen as late. -/
def IsLatest (d : Device) (ds : List Device) : Prop :=
  ∃ before later, ds = before ++ d :: later ∧
    (∀ e ∈ before, e.lastSeen < d.lastSeen) ∧ ∀ e ∈ later, e.lastSeen ≤ d.lastSeen

theorem not_isLatest_nil (d : Device) : ¬ IsLatest d [] := by
  rintro ⟨before, later, h, -⟩
  simp at h

theorem isLatest_cons {d k : Device} {ds : List Device} :
    IsLatest d (k :: ds) ↔
      (k = d ∧ ∀ e ∈ ds, e.lastSeen ≤ d.lastSeen) ∨ (k.lastSeen < d.lastSeen ∧ IsLatest d ds) := by
  constructor
  · rintro ⟨before, later, h, hbefore, hlater⟩
    cases before with
    | nil =>
        cases h
        exact .inl ⟨rfl, hlater⟩
    | cons x before =>
        cases h
        obtain ⟨hx, hbefore⟩ := List.forall_mem_cons.mp hbefore
        exact .inr ⟨hx, before, later, rfl, hbefore, hlater⟩
  · rintro (⟨rfl, hlater⟩ | ⟨hk, before, later, rfl, hbefore, hlater⟩)
    · exact ⟨[], ds, rfl, List.forall_mem_nil _, hlater⟩
    · exact ⟨k :: before, later, rfl, List.forall_mem_cons.mpr ⟨hk, hbefore⟩, hlater⟩

theorem IsLatest.mem {d : Device} {ds : List Device} (h : IsLatest d ds) : d ∈ ds := by
  obtain ⟨before, later, rfl, -⟩ := h
  simp

/-- No record of the list was seen later. -/
theorem IsLatest.le {d e : Device} {ds : List Device} (h : IsLatest d ds) (he : e ∈ ds) :
    e.lastSeen ≤ d.lastSeen := by
  obtain ⟨before, later, rfl, hbefore, hlater⟩ := h
  rcases List.mem_append.mp he with he | he
  · exact Instant.le_of_lt (hbefore e he)
  · rcases List.mem_cons.mp he with rfl | he
    · exact Instant.le_refl _
    · exact hlater e he

/-- A record that follows one seen no earlier is not the first of the latest. -/
theorem isLatest_cons_cons_of_le {d k e : Device} {ds : List Device} (h : e.lastSeen ≤ k.lastSeen) :
    IsLatest d (k :: e :: ds) ↔ IsLatest d (k :: ds) := by
  simp only [isLatest_cons, List.forall_mem_cons]
  constructor
  · rintro (⟨rfl, -, hds⟩ | ⟨hk, ⟨rfl, -⟩ | ⟨-, hlatest⟩⟩)
    · exact .inl ⟨rfl, hds⟩
    · exact absurd hk (Instant.not_lt.mpr h)
    · exact .inr ⟨hk, hlatest⟩
  · rintro (⟨rfl, hds⟩ | ⟨hk, hlatest⟩)
    · exact .inl ⟨rfl, h, hds⟩
    · exact .inr ⟨hk, .inr ⟨Instant.lt_of_le_of_lt h hk, hlatest⟩⟩

/-- A record that stands before one seen later is not among the latest. -/
theorem isLatest_cons_cons_of_lt {d k e : Device} {ds : List Device} (h : k.lastSeen < e.lastSeen) :
    IsLatest d (k :: e :: ds) ↔ IsLatest d (e :: ds) := by
  rw [isLatest_cons (k := k)]
  constructor
  · rintro (⟨rfl, hall⟩ | ⟨-, hlatest⟩)
    · exact absurd (hall e List.mem_cons_self) (Instant.not_le.mpr h)
    · exact hlatest
  · intro hlatest
    refine .inr ⟨?_, hlatest⟩
    rcases isLatest_cons.mp hlatest with ⟨rfl, -⟩ | ⟨he, -⟩
    · exact h
    · exact Instant.lt_of_lt_of_le h (Instant.le_of_lt he)

namespace Inventory

/-! ## One address -/

/-- **`contend known d`** — what stands for an address after a saved record of it was restored. -/
def contend (known : Option Device) (d : Device) : Option Device :=
  match known with
  | some k => if d.lastSeen ≤ k.lastSeen then some k else some d
  | none => some d

theorem contend_of_le {k d : Device} (h : d.lastSeen ≤ k.lastSeen) : contend (some k) d = some k :=
  if_pos h

theorem contend_of_lt {k d : Device} (h : k.lastSeen < d.lastSeen) : contend (some k) d = some d :=
  if_neg (Instant.not_le.mpr h)

/-- Of the records that contend the first of the latest wins. -/
theorem foldl_contend_eq_some {known : Option Device} {ds : List Device} {d : Device} :
    ds.foldl contend known = some d ↔ IsLatest d (known.toList ++ ds) := by
  induction ds generalizing known with
  | nil =>
      cases known with
      | none => simp [not_isLatest_nil]
      | some k => simp [isLatest_cons, not_isLatest_nil]
  | cons e ds ih =>
      rw [List.foldl_cons, ih]
      cases known with
      | none => rfl
      | some k =>
          by_cases hle : e.lastSeen ≤ k.lastSeen
          · rw [contend, if_pos hle]
            exact (isLatest_cons_cons_of_le hle).symm
          · rw [contend, if_neg hle]
            exact (isLatest_cons_cons_of_lt (Instant.not_le.mp hle)).symm

/-- Nothing stands only where nothing has contended. -/
theorem foldl_contend_eq_none {known : Option Device} {ds : List Device} :
    ds.foldl contend known = none ↔ known = none ∧ ds = [] := by
  induction ds generalizing known with
  | nil => simp
  | cons e ds ih =>
      have hsome : contend known e ≠ none := by
        cases known with
        | none => exact Option.some_ne_none _
        | some k =>
            rw [contend]
            split <;> exact Option.some_ne_none _
      simp [ih, hsome]

/-! ## All addresses -/

/-- The records that contend for an address: the one that is there, and after it the listed ones in
their order. -/
def claimants (r : Inventory) (ds : List Device) (a : Address) : List Device :=
  (r.find? a).toList ++ ds.filter (·.address = a)

theorem mem_claimants {r : Inventory} {ds : List Device} {a : Address} {d : Device} :
    d ∈ r.claimants ds a ↔ r.find? a = some d ∨ (d ∈ ds ∧ d.address = a) := by
  simp [claimants]

theorem find?_restoreOne (r : Inventory) (d : Device) (a : Address) :
    (r.restoreOne d).find? a = if d.address = a then contend (r.find? a) d else r.find? a := by
  have hstore : (r.store d).find? a = if d.address = a then some d else r.find? a := by
    rw [find?_store]
    exact if_congr eq_comm rfl rfl
  cases hknown : r.find? d.address with
  | none =>
      rw [restoreOne, hknown]
      dsimp only
      rw [hstore]
      refine ite_congr rfl (fun ha => ?_) fun _ => rfl
      rw [← ha, hknown, contend]
  | some known =>
      rw [restoreOne, hknown]
      dsimp only
      by_cases hle : d.lastSeen ≤ known.lastSeen
      · rw [if_pos hle]
        split
        · next ha => rw [← ha, hknown, contend_of_le hle]
        · rfl
      · rw [if_neg hle, hstore]
        refine ite_congr rfl (fun ha => ?_) fun _ => rfl
        rw [← ha, hknown, contend_of_lt (Instant.not_le.mp hle)]

/-- **`find?_restore`** — the listed records of an address contend for it, one after another. -/
theorem find?_restore (r : Inventory) (ds : List Device) (a : Address) :
    (r.restore ds).find? a = (ds.filter (·.address = a)).foldl contend (r.find? a) := by
  induction ds generalizing r with
  | nil => rfl
  | cons d ds ih =>
      have hrest : (r.restore (d :: ds)).find? a =
          (ds.filter (·.address = a)).foldl contend ((r.restoreOne d).find? a) := ih (r.restoreOne d)
      rw [hrest, find?_restoreOne]
      by_cases ha : d.address = a <;> simp [ha]

theorem find?_restore_eq_some {r : Inventory} {ds : List Device} {a : Address} {d : Device} :
    (r.restore ds).find? a = some d ↔ IsLatest d (r.claimants ds a) := by
  rw [find?_restore]
  exact foldl_contend_eq_some

theorem find?_restore_eq_none {r : Inventory} {ds : List Device} {a : Address} :
    (r.restore ds).find? a = none ↔ r.claimants ds a = [] := by
  rw [find?_restore, foldl_contend_eq_none, claimants, List.append_eq_nil_iff, Option.toList_eq_nil_iff]

end Inventory

end LanCensus
