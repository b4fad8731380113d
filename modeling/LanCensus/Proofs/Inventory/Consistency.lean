/-
# LanCensus.Proofs.Inventory.Consistency -- devices that are offline and have a response time

A device that is offline has no response time: a missed probe clears it, and so does a probe result that is
merged into a known record. But two changes take a device in as it is: restoring puts saved records into
the inventory, and absorbing does so with a probe result for an unknown address. Neither looks at the
response time of a device that is offline.

`isConsistent_after_iff` says that nothing else is amiss. Whatever the changes were, an inconsistent record
was taken in as it is, and no change has touched it since (`Change.Spares`); and such a record stays
inconsistent. `restored_inconsistent` is the smallest instance, a saved list of one device.
-/

import LanCensus.Proofs.Device.Record
import LanCensus.Proofs.Inventory.Upkeep
import Mathlib.Data.List.Induction

namespace LanCensus

/-! ## Consistent records -/

/-- **`IsConsistent d`** — if the device is offline, it has no response time. -/
def Device.IsConsistent (d : Device) : Prop := d.online = false → d.responseTime = .zero

instance (d : Device) : Decidable d.IsConsistent :=
  inferInstanceAs (Decidable (d.online = false → d.responseTime = .zero))

theorem Device.isConsistent_offline (d : Device) : d.offline.IsConsistent := fun _ => rfl

/-- Whatever is merged, the record that results is consistent. -/
theorem Device.isConsistent_merge (d probe : Device) : (d.merge probe).IsConsistent := by
  intro hoffline
  have hprobe : probe.online = false := hoffline
  simp [merge, hprobe]

namespace Inventory

/-- **`IsConsistent r`** — every record of the inventory is consistent. -/
def IsConsistent (r : Inventory) : Prop := ∀ a d, r.find? a = some d → d.IsConsistent

/-! ## Taking a device in -/

/-- **`r.TakesIn d c`** — the change puts the device into the inventory as it is. It is a saved record that
stands when all of them are restored, or a probe result for an address that was unknown. -/
def TakesIn (r : Inventory) (d : Device) : Change → Prop
  | .restore ds => d ∈ ds ∧ (r.restore ds).find? d.address = some d
  | .absorb probed => probed = d ∧ r.find? d.address = none
  | .offline _ | .allOffline | .remove _ => False

/-- **`c.Spares d`** — the change is about other devices, or restores only records of this one that are no
later. -/
def Change.Spares (d : Device) : Change → Prop
  | .restore ds => ∀ e ∈ ds, e.address = d.address → e.lastSeen ≤ d.lastSeen
  | .absorb probed => probed.address ≠ d.address
  | .offline a | .remove a => a ≠ d.address
  | .allOffline => False

variable {r : Inventory} {d : Device}

/-- What stands after records were restored is one of them, or stood before and was seen no earlier than any
of them. -/
theorem find?_restore_cases {ds : List Device} {a : Address} (h : (r.restore ds).find? a = some d) :
    (d ∈ ds ∧ d.address = a) ∨
      (r.find? a = some d ∧ ∀ e ∈ ds, e.address = a → e.lastSeen ≤ d.lastSeen) := by
  have hlatest : IsLatest d (r.claimants ds a) := find?_restore_eq_some.mp h
  rcases mem_claimants.mp hlatest.mem with hstood | hlisted
  · exact .inr ⟨hstood, fun e he ha => hlatest.le (mem_claimants.mpr (.inr ⟨he, ha⟩))⟩
  · exact .inl hlisted

/-- A record stands as long as only earlier ones of its device are restored. -/
theorem find?_restore_of_le {ds : List Device} (h : r.find? d.address = some d)
    (hds : ∀ e ∈ ds, e.address = d.address → e.lastSeen ≤ d.lastSeen) :
    (r.restore ds).find? d.address = some d := by
  rw [find?_restore_eq_some, claimants, h]
  refine isLatest_cons.mpr (.inl ⟨rfl, fun e he => ?_⟩)
  obtain ⟨hmem, ha⟩ := List.mem_filter.mp he
  exact hds e hmem (of_decide_eq_true ha)

/-! ## One change -/

/-- A device that is taken in stands. -/
theorem TakesIn.find? {c : Change} (h : r.TakesIn d c) : (r.change c).find? d.address = some d := by
  cases c with
  | restore ds => exact h.2
  | absorb probed =>
      obtain ⟨rfl, hunknown⟩ := h
      show (r.absorb probed).find? probed.address = some probed
      rw [find?_absorb, if_pos rfl, merged, hunknown]
  | offline a => cases h
  | allOffline => cases h
  | remove a => cases h

/-- A record that is spared stands. -/
theorem Change.Spares.find? {c : Change} (hc : c.Spares d) (h : r.find? d.address = some d) :
    (r.change c).find? d.address = some d := by
  cases c with
  | restore ds => exact find?_restore_of_le h hc
  | absorb probed => exact (find?_change_of_ne r _ rfl (Ne.symm hc)).trans h
  | offline a => exact (find?_change_of_ne r _ rfl (Ne.symm hc)).trans h
  | allOffline => cases hc
  | remove a => exact (find?_change_of_ne r _ rfl (Ne.symm hc)).trans h

/-- **`takesIn_or_spares`** — an inconsistent record that stands after a change was taken in as it is, or
stood before and was spared. -/
theorem takesIn_or_spares (hr : r.IsSound) {c : Change} {a : Address}
    (h : (r.change c).find? a = some d) (hd : ¬ d.IsConsistent) :
    r.TakesIn d c ∨ (r.find? a = some d ∧ c.Spares d) := by
  have haddress : d.address = a := (hr.change c).keyed a d h
  subst haddress
  cases c with
  | restore ds =>
      rcases find?_restore_cases h with ⟨hmem, -⟩ | hstood
      · exact .inl ⟨hmem, h⟩
      · exact .inr hstood
  | absorb probed =>
      rw [change, find?_absorb] at h
      split at h
      · next ha =>
        -- A record that is known is merged with the result, which makes it consistent.
        unfold merged at h
        split at h
        · cases h
          exact absurd (Device.isConsistent_merge _ _) hd
        · next hunknown =>
          cases h
          exact .inl ⟨rfl, hunknown⟩
      · next ha => exact .inr ⟨h, Ne.symm ha⟩
  | offline b =>
      rw [change, find?_offline] at h
      split at h
      · obtain ⟨known, -, rfl⟩ := Option.map_eq_some_iff.mp h
        exact absurd known.isConsistent_offline hd
      · next ha => exact .inr ⟨h, Ne.symm ha⟩
  | allOffline =>
      rw [change, find?_allOffline] at h
      obtain ⟨known, -, rfl⟩ := Option.map_eq_some_iff.mp h
      exact absurd known.isConsistent_offline hd
  | remove b =>
      rw [change, find?_remove] at h
      split at h
      · cases h
      · next ha => exact .inr ⟨h, Ne.symm ha⟩

/-! ## Any changes -/

/-- A record stands as long as every change spares it. -/
theorem find?_after_of_spares {cs : List Change} (h : r.find? d.address = some d)
    (hcs : ∀ c ∈ cs, c.Spares d) : (r.after cs).find? d.address = some d := by
  induction cs generalizing r with
  | nil => exact h
  | cons c cs ih =>
      obtain ⟨hc, hcs⟩ := List.forall_mem_cons.mp hcs
      exact ih (hc.find? h) hcs

/-- By induction on the changes, from the last one back to the one that took the device in. -/
theorem exists_takesIn {cs : List Change} {a : Address} (h : (empty.after cs).find? a = some d)
    (hd : ¬ d.IsConsistent) :
    ∃ before c later, cs = before ++ c :: later ∧ (empty.after before).TakesIn d c ∧
      ∀ x ∈ later, x.Spares d := by
  induction cs using List.reverseRecOn with
  | nil => cases h
  | append_singleton cs c ih =>
      rw [after_append] at h
      rcases takesIn_or_spares (isSound_empty.after cs) h hd with htakes | ⟨hstood, hspares⟩
      · exact ⟨cs, c, [], rfl, htakes, List.forall_mem_nil _⟩
      · obtain ⟨before, b, later, rfl, htakes, hlater⟩ := ih hstood
        refine ⟨before, b, later ++ [c], by simp, htakes, ?_⟩
        intro x hx
        rcases List.mem_append.mp hx with hx | hx
        · exact hlater x hx
        · rw [List.mem_singleton.mp hx]
          exact hspares

/-- **`isConsistent_after_iff`** — after any changes to the empty inventory its records are consistent
exactly if each device that was taken in as it is and has been spared since is consistent itself. -/
theorem isConsistent_after_iff (cs : List Change) :
    (empty.after cs).IsConsistent ↔
      ∀ before c later d, cs = before ++ c :: later → (empty.after before).TakesIn d c →
        (∀ x ∈ later, x.Spares d) → d.IsConsistent := by
  constructor
  · rintro hall before c later d rfl htakes hlater
    refine hall d.address d ?_
    rw [after_append, after_cons]
    exact find?_after_of_spares htakes.find? hlater
  · intro htaken a d hd
    by_contra hbad
    obtain ⟨before, c, later, hcs, htakes, hlater⟩ := exists_takesIn hd hbad
    exact hbad (htaken before c later d hcs htakes hlater)

/-- A device that is offline and has a response time. -/
def sluggish : Device := { Device.fresh ⟨10, 0, 0, 9⟩ ⟨0, 0⟩ with responseTime := .ofMillis 5 }

/-- **`restored_inconsistent`** — a text of saved records can hold such a device, and the inventory that it
is restored to holds it as it is. So does one that has absorbed it. -/
theorem restored_inconsistent :
    Device.listOfText (String.ofList (Device.listToJson [sluggish]).pretty) = .ok [sluggish] ∧
      (empty.after [.restore [sluggish]]).find? ⟨10, 0, 0, 9⟩ = some sluggish ∧
      (empty.after [.absorb sluggish]).find? ⟨10, 0, 0, 9⟩ = some sluggish ∧
      sluggish.online = false ∧ sluggish.responseTime ≠ .zero := by
  have hwritable : ∀ d ∈ [sluggish], d.lastSeen.IsWritable :=
    List.forall_mem_singleton.mpr ⟨by decide, by decide, by decide⟩
  refine ⟨Device.listOfText_pretty hwritable, ?_, ?_, rfl, by decide⟩
  · decide +kernel
  · decide +kernel

end Inventory

end LanCensus
