/-
# LanCensus.Proofs.Inventory.Sightings -- what a record holds after any probes of its device

A device that is known is probed again and again, and each time it is found or missed; a sweep first counts
every device as missed. To a record each of these is a sighting (`Sighting`), and each of its fields has a
rule of its own. The last probe that found the device gives the name and the kind, the last one that also
found out the hardware address gives that, the latest of all times counts whenever it arrives, and whether
the device is online and how fast it answered is for the last sighting alone to say (`Device.Follows`).

So a probe result that arrives twice is taken in once, and a hardware address that is known is never lost.
-/

import LanCensus.Proofs.Inventory.Upkeep
import Mathlib.Data.List.Induction

namespace LanCensus

namespace AddressMap

variable {α : Type}

theorem put_put (a : Address) (x y : α) (es : List (Address × α)) :
    put a x (put a y es) = put a x es := by
  induction es with
  | nil => simp [put]
  | cons e es ih =>
      obtain ⟨b, z⟩ := e
      by_cases hab : a = b
      · simp [put, hab]
      · by_cases hlt : a.toNat < b.toNat
        · simp [put, hab, hlt]
        · simp [put, hab, hlt, ih]

/-- What is put under an address takes the place of what was put there before. -/
theorem insert_insert (m : AddressMap α) (a : Address) (x y : α) :
    (m.insert a y).insert a x = m.insert a x := congrArg AddressMap.mk (put_put a x y m.entries)

end AddressMap

/-! ## Sightings -/

/-- **`Sighting`** — what a probe has to say of a device. -/
inductive Sighting
  | found (probed : Device)
  | missed
  deriving DecidableEq, Repr

namespace Sighting

/-- The result of a probe that found the device. -/
def found? : Sighting → Option Device
  | found p => some p
  | missed => none

/-- The results of all probes that found the device, the first one first. -/
def results (ss : List Sighting) : List Device := ss.filterMap found?

@[simp]
theorem results_found (ss : List Sighting) (p : Device) :
    results (ss ++ [.found p]) = results ss ++ [p] := List.filterMap_append

@[simp]
theorem results_missed (ss : List Sighting) : results (ss ++ [.missed]) = results ss :=
  List.filterMap_append.trans (List.append_nil _)

end Sighting

namespace Device

/-- The record after a sighting. -/
def upon (d : Device) : Sighting → Device
  | .found p => d.merge p
  | .missed => d.offline

theorem knowsMac_merge (d p : Device) :
    (d.merge p).knowsMac ↔ d.knowsMac ∨ p.knowsMac := by
  by_cases hp : p.knowsMac
  · have hmac : (d.merge p).mac = p.mac := if_pos hp
    unfold knowsMac at hp ⊢
    simp only [hmac, hp, or_true]
  · have hmac : (d.merge p).mac = d.mac := if_neg hp
    simp only [knowsMac, hmac] at hp ⊢
    tauto

/-- **`d.Follows ss e`** — the record `e` is what the sightings have made of `d`. -/
structure Follows (d : Device) (ss : List Sighting) (e : Device) : Prop where
  address : e.address = d.address
  name : e.name = ((Sighting.results ss).getLast?.getD d).name
  kind : e.kind = ((Sighting.results ss).getLast?.getD d).kind
  mac : e.mac = (((Sighting.results ss).filter (·.knowsMac)).getLast?.getD d).mac
  knowsMac : (∃ x ∈ d :: Sighting.results ss, x.knowsMac) → e.knowsMac
  lastSeen : ∃ x ∈ d :: Sighting.results ss, e.lastSeen = x.lastSeen
  latest : ∀ x ∈ d :: Sighting.results ss, x.lastSeen ≤ e.lastSeen
  online : e.online = match ss.getLast? with
    | some (.found p) => p.online
    | some .missed => false
    | none => d.online
  responseTime : e.responseTime = match ss.getLast? with
    | some (.found p) => if p.online then p.responseTime else .zero
    | some .missed => .zero
    | none => d.responseTime

namespace Follows

variable {d e : Device} {ss : List Sighting}

theorem refl (d : Device) : d.Follows [] d where
  address := rfl
  name := rfl
  kind := rfl
  mac := rfl
  knowsMac := by simp [Sighting.results]
  lastSeen := ⟨d, List.mem_cons_self, rfl⟩
  latest x hx := by
    rw [List.mem_singleton.mp hx]
    exact Instant.le_refl _
  online := rfl
  responseTime := rfl

/-- A missed probe says nothing of what the device is. -/
theorem missed (h : d.Follows ss e) : d.Follows (ss ++ [.missed]) e.offline where
  address := h.address
  name := by
    rw [Sighting.results_missed]
    exact h.name
  kind := by
    rw [Sighting.results_missed]
    exact h.kind
  mac := by
    rw [Sighting.results_missed]
    exact h.mac
  knowsMac := by
    rw [Sighting.results_missed]
    exact h.knowsMac
  lastSeen := by
    rw [Sighting.results_missed]
    exact h.lastSeen
  latest := by
    rw [Sighting.results_missed]
    exact h.latest
  online := by simp [offline]
  responseTime := by simp [offline]

/-- A probe that found the device leaves the time and the hardware address of the record only where its own
are not the later one and not known. -/
theorem found (h : d.Follows ss e) (p : Device) : d.Follows (ss ++ [.found p]) (e.merge p) where
  address := h.address
  name := by simp [merge]
  kind := by simp [merge]
  mac := by
    rw [Sighting.results_found, List.filter_append]
    by_cases hp : p.knowsMac
    · simp [merge, hp]
    · simpa [merge, hp] using h.mac
  knowsMac := by
    rintro ⟨x, hx, hknows⟩
    rw [Sighting.results_found, ← List.cons_append] at hx
    rw [knowsMac_merge]
    rcases List.mem_append.mp hx with hx | hx
    · exact .inl (h.knowsMac ⟨x, hx, hknows⟩)
    · rw [← List.mem_singleton.mp hx]
      exact .inr hknows
  lastSeen := by
    rw [Sighting.results_found, ← List.cons_append]
    rcases e.lastSeen.later_eq_or p.lastSeen with heq | heq
    · obtain ⟨x, hx, hseen⟩ := h.lastSeen
      exact ⟨x, List.mem_append_left _ hx, heq.trans hseen⟩
    · exact ⟨p, List.mem_append_right _ List.mem_cons_self, heq⟩
  latest := by
    intro x hx
    rw [Sighting.results_found, ← List.cons_append] at hx
    rcases List.mem_append.mp hx with hx | hx
    · exact Instant.le_trans (h.latest x hx) (Instant.le_later _ _)
    · rw [List.mem_singleton.mp hx]
      exact Instant.le_later_right _ _
  online := by simp [merge]
  responseTime := by simp [merge]

end Follows

/-- By induction on the sightings, the last one made last. -/
theorem follows_upon (d : Device) (ss : List Sighting) : d.Follows ss (ss.foldl upon d) := by
  induction ss using List.reverseRecOn with
  | nil => exact Follows.refl d
  | append_singleton ss s ih =>
      rw [List.foldl_append, List.foldl_cons, List.foldl_nil]
      cases s with
      | found p => exact ih.found p
      | missed => exact ih.missed

/-- A probe result that was merged leaves nothing to merge. -/
theorem merge_merge (d p : Device) : (d.merge p).merge p = d.merge p := by
  have hseen : (d.lastSeen.later p.lastSeen).later p.lastSeen = d.lastSeen.later p.lastSeen :=
    if_neg (Instant.not_lt.mpr (Instant.le_later_right _ _))
  by_cases hp : p.knowsMac <;> simp [merge, hp, hseen]

end Device

/-! ## Sightings of an inventory -/

namespace Inventory

/-- Whether the change comes from a probe or from a sweep that begins. -/
def Change.isSighting : Change → Bool
  | .absorb _ | .offline _ | .allOffline => true
  | .restore _ | .remove _ => false

/-- The sighting of an address that a change is. -/
def Change.sighting? (a : Address) : Change → Option Sighting
  | .absorb p => if p.address = a then some (.found p) else none
  | .offline b => if b = a then some .missed else none
  | .allOffline => some .missed
  | .restore _ | .remove _ => none

/-- The sightings of an address among changes. -/
def sightings (a : Address) (cs : List Change) : List Sighting := cs.filterMap (Change.sighting? a)

variable {r : Inventory} {a : Address} {d : Device}

/-- A change sets the record of an address by what it is a sighting of. -/
theorem find?_change_of_isSighting (h : r.find? a = some d) {c : Change} (hc : c.isSighting) :
    (r.change c).find? a = some ((c.sighting? a).elim d d.upon) := by
  cases c with
  | restore ds => cases hc
  | absorb p =>
      rw [change, find?_absorb, Change.sighting?]
      by_cases ha : p.address = a
      · subst ha
        rw [if_pos rfl, if_pos rfl, merged, h]
        rfl
      · rw [if_neg (Ne.symm ha), if_neg ha, h]
        rfl
  | offline b =>
      rw [change, find?_offline, Change.sighting?]
      by_cases ha : b = a
      · subst ha
        rw [if_pos rfl, if_pos rfl, h]
        rfl
      · rw [if_neg (Ne.symm ha), if_neg ha, h]
        rfl
  | allOffline =>
      rw [change, find?_allOffline, h]
      rfl
  | remove b => cases hc

theorem find?_after_of_isSighting (h : r.find? a = some d) {cs : List Change}
    (hcs : ∀ c ∈ cs, c.isSighting) :
    (r.after cs).find? a = some ((sightings a cs).foldl Device.upon d) := by
  induction cs generalizing r d with
  | nil => exact h
  | cons c cs ih =>
      obtain ⟨hc, hcs⟩ := List.forall_mem_cons.mp hcs
      rw [after_cons, ih (find?_change_of_isSighting h hc) hcs]
      unfold sightings
      rw [List.filterMap_cons]
      cases c.sighting? a <;> rfl

/-- The record of a known device takes a probe result in once. -/
theorem absorb_absorb (h : r.find? d.address ≠ none) : (r.absorb d).absorb d = r.absorb d := by
  obtain ⟨known, hknown⟩ := Option.ne_none_iff_exists'.mp h
  have hmerged : r.merged d = known.merge d := by rw [merged, hknown]
  have hagain : (r.absorb d).merged d = r.merged d := by
    rw [merged, find?_absorb, if_pos rfl]
    simp only [hmerged, Device.merge_merge]
  unfold absorb at hagain ⊢
  rw [hagain]
  exact congrArg Inventory.mk (AddressMap.insert_insert ..)

/-- **`record_after`** — the record of a known device is what the sightings of it have made of the one before,
and one that comes a second time, straight after the first, makes no difference. -/
theorem record_after (h : r.find? a = some d) {cs : List Change} (hcs : ∀ c ∈ cs, c.isSighting) :
    (∃ e, (r.after cs).find? a = some e ∧ d.Follows (sightings a cs) e) ∧
      ∀ p later, p.address = a →
        r.after (cs ++ .absorb p :: .absorb p :: later) = r.after (cs ++ .absorb p :: later) := by
  have hrecord := find?_after_of_isSighting h hcs
  refine ⟨⟨_, hrecord, d.follows_upon _⟩, ?_⟩
  intro p later hp
  subst hp
  have hknown : (r.after cs).find? p.address ≠ none := by simp [hrecord]
  simp only [after_append, after_cons, change, absorb_absorb hknown]

/-- A device whose hardware address is known. -/
def printer : Device := { Device.fresh ⟨10, 0, 0, 9⟩ ⟨50, 0⟩ with mac := "00:1b:63:84:45:e6" }

/-- It is found once more, by a probe that began earlier and did not find out the hardware address; then a
sweep begins. -/
def smallSightings : List Change := [.absorb (.answering ⟨10, 0, 0, 9⟩ ⟨45, 0⟩ (.ofMillis 3)), .allOffline]

/-- The hardware address is kept and the response time is not, and the probe could have reported twice. -/
theorem smallSightings_record :
    (∃ e, ((empty.store printer).after smallSightings).find? ⟨10, 0, 0, 9⟩ = some e ∧
        e.mac = printer.mac ∧ e.responseTime = .zero) ∧
      (empty.store printer).after (smallSightings ++ [.absorb printer, .absorb printer]) =
        (empty.store printer).after (smallSightings ++ [.absorb printer]) := by
  have hknown : (empty.store printer).find? ⟨10, 0, 0, 9⟩ = some printer := by decide +kernel
  have hsightings : ∀ c ∈ smallSightings, c.isSighting := by decide
  obtain ⟨⟨e, he, hfollows⟩, htwice⟩ := record_after hknown hsightings
  refine ⟨⟨e, he, ?_, ?_⟩, htwice printer [] rfl⟩
  · exact hfollows.mac.trans (by decide +kernel)
  · exact hfollows.responseTime

end Inventory

end LanCensus
