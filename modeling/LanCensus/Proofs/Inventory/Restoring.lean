/-
# LanCensus.Proofs.Inventory.Restoring -- which of several records of a device stands

Saved records come in lists with a device named any number of times, in parts, twice over, in any order.
What stands for an address after them is the first of its latest records (`IsLatest`), and all else that
can be said of restoring follows from that. The order of the list matters only where two records of a
device were seen at the same time.
-/

import LanCensus.Proofs.Inventory.Upkeep
import Mathlib.Data.List.Pairwise
import Mathlib.Data.Set.Card

namespace LanCensus.Inventory

/-! ## One address -/

/-- Of two records that were seen at different times, the earlier has no part in what stands. -/
theorem contend_right_comm_of_lt {d e : Device} (h : d.lastSeen < e.lastSeen) (known : Option Device) :
    contend (contend known d) e = contend (contend known e) d := by
  have hde : d.lastSeen ≤ e.lastSeen := Instant.le_of_lt h
  cases known with
  | none => exact (contend_of_lt h).trans (contend_of_le hde).symm
  | some k =>
      by_cases he : e.lastSeen ≤ k.lastSeen
      · have hd : d.lastSeen ≤ k.lastSeen := Instant.le_trans hde he
        simp only [contend_of_le he, contend_of_le hd]
      · have hk : k.lastSeen < e.lastSeen := Instant.not_le.mp he
        rw [contend_of_lt hk, contend_of_le hde]
        by_cases hd : d.lastSeen ≤ k.lastSeen
        · rw [contend_of_le hd, contend_of_lt hk]
        · rw [contend_of_lt (Instant.not_le.mp hd), contend_of_lt h]

theorem contend_right_comm {d e : Device} (h : d.lastSeen ≠ e.lastSeen) (known : Option Device) :
    contend (contend known d) e = contend (contend known e) d := by
  rcases Instant.lt_or_lt_of_ne h with h | h
  · exact contend_right_comm_of_lt h known
  · exact (contend_right_comm_of_lt h known).symm

/-- Against the winner nothing changes when the same records contend again. -/
theorem foldl_contend_again (known : Option Device) (ds : List Device) :
    ds.foldl contend (ds.foldl contend known) = ds.foldl contend known := by
  cases hwinner : ds.foldl contend known with
  | none =>
      obtain ⟨-, rfl⟩ := foldl_contend_eq_none.mp hwinner
      rfl
  | some d =>
      have hlatest : IsLatest d (known.toList ++ ds) := foldl_contend_eq_some.mp hwinner
      refine foldl_contend_eq_some.mpr (isLatest_cons.mpr (.inl ⟨rfl, fun e he => ?_⟩))
      exact hlatest.le (List.mem_append_right _ he)

/-! ## All addresses -/

theorem restore_append (r : Inventory) (ds es : List Device) :
    r.restore (ds ++ es) = (r.restore ds).restore es := List.foldl_append

namespace IsSound

variable {r : Inventory}

theorem restore_restore (h : r.IsSound) (ds : List Device) :
    (r.restore ds).restore ds = r.restore ds := by
  refine ((h.restore ds).restore ds).ext (h.restore ds) fun a => ?_
  rw [find?_restore, find?_restore]
  exact foldl_contend_again _ _

/-- Where no two records of a device were seen at the same time, their order does not matter. -/
theorem restore_perm (h : r.IsSound) {ds es : List Device}
    (hds : ds.Pairwise fun d e => d.address = e.address → d.lastSeen ≠ e.lastSeen)
    (hperm : ds.Perm es) : r.restore ds = r.restore es := by
  refine (h.restore ds).ext (h.restore es) fun a => ?_
  rw [find?_restore, find?_restore]
  have hcomm : (ds.filter (·.address = a)).Pairwise fun d e =>
      ∀ known, contend (contend known d) e = contend (contend known e) d := by
    refine (hds.filter _).imp_of_mem fun hd he hne known => contend_right_comm (hne ?_) known
    simp only [List.mem_filter, decide_eq_true_eq] at hd he
    rw [hd.2, he.2]
  exact (hperm.filter _).foldl_eq' (hcomm.forall_of_forall_of_flip (fun _ _ _ => rfl)
    (hcomm.imp fun h known => (h known).symm)) _

/-- The number of devices is that of the addresses that have a record. -/
theorem size_eq_ncard (h : r.IsSound) : r.size = {a | (r.find? a).isSome}.ncard := by
  have hintact := h.isIntact
  have hnodup : (r.toList.map (·.address)).Nodup := by
    refine List.pairwise_map.mpr (hintact.ascending.imp fun hlt heq => ?_)
    rw [heq] at hlt
    exact Nat.lt_irrefl _ hlt
  have hset : {a | (r.find? a).isSome} = ((r.toList.map (·.address)).toFinset : Set Address) := by
    ext a
    simp [hintact.found a]
  rw [hset, Set.ncard_coe_finset, List.toFinset_card_of_nodup hnodup, List.length_map, hintact.counted]

end IsSound

/-! ## Restoring -/

/-- **`Restoring r ds`** — for each address the first of the latest stands among the record that was
there and the listed ones; what is not listed stays; and the number of devices is that of the
addresses. A list can be restored in parts; a second time it changes nothing; and its order is of no
matter if no two of its records of one device were seen at the same time. -/
structure Restoring (r : Inventory) (ds : List Device) : Prop where
  latest : ∀ a d, (r.restore ds).find? a = some d ↔ IsLatest d (r.claimants ds a)
  absent : ∀ a, (r.restore ds).find? a = none ↔ r.claimants ds a = []
  unlisted : ∀ a, (∀ d ∈ ds, d.address ≠ a) → (r.restore ds).find? a = r.find? a
  counted : (r.restore ds).size = {a | ((r.restore ds).find? a).isSome}.ncard
  inParts : ∀ es, r.restore (ds ++ es) = (r.restore ds).restore es
  again : (r.restore ds).restore ds = r.restore ds
  anyOrder : (ds.Pairwise fun d e => d.address = e.address → d.lastSeen ≠ e.lastSeen) →
    ∀ es, ds.Perm es → r.restore es = r.restore ds

/-- **`restoring`** — whatever a sound inventory holds and whatever is listed, restoring leaves the
latest record of each address. -/
theorem restoring {r : Inventory} (h : r.IsSound) (ds : List Device) : Restoring r ds where
  latest _ _ := find?_restore_eq_some
  absent _ := find?_restore_eq_none
  unlisted a ha := by
    have hnone : ds.filter (·.address = a) = [] := by simpa using ha
    rw [find?_restore, hnone, List.foldl_nil]
  counted := (h.restore ds).size_eq_ncard
  inParts := restore_append r ds
  again := h.restore_restore ds
  anyOrder hds es hperm := (h.restore_perm hds hperm).symm

/-- A device that is known, and a list of records of it and of another device. One was seen at the same time
as the known record and one before. -/
def smallKnown : Inventory := empty.store (.fresh ⟨10, 0, 0, 9⟩ ⟨50, 0⟩)

@[inherit_doc smallKnown]
def smallSaved : List Device :=
  [.answering ⟨10, 0, 0, 9⟩ ⟨50, 0⟩ .zero, .fresh ⟨10, 0, 0, 2⟩ ⟨60, 0⟩, .fresh ⟨10, 0, 0, 9⟩ ⟨40, 0⟩]

/-- The known record stands, and the list could be turned round. -/
theorem smallSaved_restoring :
    smallKnown.IsSound ∧
      (smallKnown.restore smallSaved).find? ⟨10, 0, 0, 9⟩ = some (.fresh ⟨10, 0, 0, 9⟩ ⟨50, 0⟩) ∧
      smallKnown.restore smallSaved.reverse = smallKnown.restore smallSaved := by
  have hsound : smallKnown.IsSound := isSound_empty.store _
  have h : Restoring smallKnown smallSaved := restoring hsound smallSaved
  refine ⟨hsound, (h.latest _ _).mpr ?_, h.anyOrder (by decide) _ (List.reverse_perm _).symm⟩
  exact ⟨[], smallSaved.filter (·.address = ⟨10, 0, 0, 9⟩), rfl, List.forall_mem_nil _, by decide +kernel⟩

end LanCensus.Inventory
