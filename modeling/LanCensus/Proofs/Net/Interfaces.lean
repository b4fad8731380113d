/-
# LanCensus.Proofs.Net.Interfaces -- the subnets of the interfaces of a host

The addresses that count are those that an interface exposes (`Interface.Exposes`), and each shows the subnet in
which it lies. The list of the subnets of a host has those that are shown, each once and in the order in which they
are shown first
(`localSubnets_inOrder`). The names on it are plain ones, so each is read as a subnet and no two as
the same (`map_name_localSubnets`).
-/

import LanCensus.Proofs.Net.Subnet
import Mathlib.Data.List.Nodup

namespace LanCensus

/-! ## First occurrences -/

section FirstOccurrences

variable {α : Type} [BEq α] [LawfulBEq α] {seen xs : List α} {x : α}

theorem mem_firstOccurrences : x ∈ firstOccurrences seen xs ↔ x ∈ xs ∧ x ∉ seen := by
  induction xs generalizing seen with
  | nil => simp [firstOccurrences]
  | cons y xs ih =>
      rw [firstOccurrences, List.mem_cons]
      split
      · next hy =>
        rw [ih]
        have hseen : y ∈ seen := List.contains_iff_mem.mp hy
        constructor
        · rintro ⟨hx, hnew⟩
          exact ⟨.inr hx, hnew⟩
        · rintro ⟨rfl | hx, hnew⟩
          · exact absurd hseen hnew
          · exact ⟨hx, hnew⟩
      · next hy =>
        have hseen : y ∉ seen := fun h => hy (List.contains_iff_mem.mpr h)
        rw [List.mem_cons, ih, List.mem_cons]
        by_cases hxy : x = y
        · simp [hxy, hseen]
        · simp [hxy]

/-- **`pairwise_firstOccurrences`** — the elements stand in the order of their first occurrences. -/
theorem pairwise_firstOccurrences (seen xs : List α) :
    (firstOccurrences seen xs).Pairwise fun x y => xs.idxOf x < xs.idxOf y := by
  induction xs generalizing seen with
  | nil => exact List.Pairwise.nil
  | cons y xs ih =>
      -- Behind the first element everything stands one place further on.
      have hlater {ys : List α} (hy : y ∉ ys) (hys : ys.Pairwise fun x z => xs.idxOf x < xs.idxOf z) :
          ys.Pairwise fun x z => (y :: xs).idxOf x < (y :: xs).idxOf z := by
        apply hys.imp_of_mem
        intro x z hx hz hlt
        have hxy : y ≠ x := fun h => hy (h ▸ hx)
        have hzy : y ≠ z := fun h => hy (h ▸ hz)
        rw [List.idxOf_cons_ne xs hxy, List.idxOf_cons_ne xs hzy]
        omega
      rw [firstOccurrences]
      split
      · next hseen =>
        apply hlater _ (ih seen)
        intro hmem
        exact (mem_firstOccurrences.mp hmem).2 (List.contains_iff_mem.mp hseen)
      · have hnew : y ∉ firstOccurrences (y :: seen) xs := by
          intro hmem
          exact (mem_firstOccurrences.mp hmem).2 List.mem_cons_self
        rw [List.pairwise_cons]
        refine ⟨fun x hx => ?_, hlater hnew (ih _)⟩
        have hxy : y ≠ x := fun h => hnew (h ▸ hx)
        rw [List.idxOf_cons_self, List.idxOf_cons_ne xs hxy]
        omega

end FirstOccurrences

/-! ## Interfaces -/

variable {i : Interface} {is : List Interface} {a : Address} {name : String}

/-- **`i.Exposes a`** — the interface is not left out because of its name, and the address is neither the host itself
nor link-local nor unspecified. -/
structure Interface.Exposes (i : Interface) (a : Address) : Prop where
  kept : ∀ ignored ∈ ignoredNames, ¬ ignored.toList <+: i.name.toList
  remote : a.isLoopback = false
  assigned : a.isLinkLocal = false
  specified : a.isUnspecified = false

theorem exposes_iff : i.Exposes a ↔ i.isIgnored = false ∧ a.isLan = true := by
  have hname : i.isIgnored = false ↔ ∀ ignored ∈ ignoredNames, ¬ ignored.toList <+: i.name.toList := by
    simp [Interface.isIgnored]
  have haddress : a.isLan = true ↔ a.isLoopback = false ∧ a.isLinkLocal = false ∧ a.isUnspecified = false := by
    simp [Address.isLan, and_assoc]
  rw [hname, haddress]
  constructor
  · intro h
    exact ⟨h.kept, h.remote, h.assigned, h.specified⟩
  · rintro ⟨hkept, hremote, hassigned, hspecified⟩
    exact ⟨hkept, hremote, hassigned, hspecified⟩

instance (i : Interface) (a : Address) : Decidable (i.Exposes a) := decidable_of_iff _ exposes_iff.symm

/-- The IPv4 addresses of the interfaces, one after another, each with its interface. -/
def listedAddresses (is : List Interface) : List (Interface × Address) :=
  is.flatMap fun i => i.addresses.filterMap fun a => a.map (i, ·)

/-- **`shownNames is`** — the plain names of the subnets of the addresses that count, one after another and as often
as there are such addresses. -/
def shownNames (is : List Interface) : List String :=
  ((listedAddresses is).filter fun e => e.1.Exposes e.2).map fun e => (Subnet.ofAddress e.2).name

theorem flatMap_subnetNames (is : List Interface) : is.flatMap Interface.subnetNames = shownNames is := by
  have hcounts (i : Interface) (a : Address) : decide (i.Exposes a) = (!i.isIgnored && a.isLan) := by
    rw [Bool.eq_iff_iff, decide_eq_true_iff, exposes_iff]
    simp
  have hone (i : Interface) : i.subnetNames =
      ((i.addresses.filterMap fun a => a.map (i, ·)).filter fun e => e.1.Exposes e.2).map fun e =>
        (Subnet.ofAddress e.2).name := by
    have hpairs : (i.addresses.filterMap fun a => a.map (i, ·)) = (i.addresses.filterMap id).map (i, ·) := by
      rw [List.map_filterMap]
      rfl
    rw [hpairs, List.filter_map, List.map_map, Interface.subnetNames]
    simp only [Function.comp_def, hcounts]
    cases i.isIgnored <;> simp
  rw [shownNames, listedAddresses, List.filter_flatMap, List.map_flatMap]
  exact List.flatMap_congr fun i _ => hone i

theorem mem_shownNames : name ∈ shownNames is ↔
    ∃ i ∈ is, ∃ a, some a ∈ i.addresses ∧ i.Exposes a ∧ name = (Subnet.ofAddress a).name := by
  simp only [shownNames, listedAddresses, List.mem_map, List.mem_filter, List.mem_flatMap, List.mem_filterMap,
    Option.map_eq_some_iff, decide_eq_true_eq]
  constructor
  · rintro ⟨-, ⟨⟨i, hi, -, ha, a, rfl, rfl⟩, hexposes⟩, rfl⟩
    exact ⟨i, hi, a, ha, hexposes, rfl⟩
  · rintro ⟨i, hi, a, ha, hexposes, rfl⟩
    exact ⟨(i, a), ⟨⟨i, hi, some a, ha, a, rfl, rfl⟩, hexposes⟩, rfl⟩

theorem mem_localSubnets : name ∈ localSubnets is ↔
    ∃ i ∈ is, ∃ a, some a ∈ i.addresses ∧ i.Exposes a ∧ name = (Subnet.ofAddress a).name := by
  rw [localSubnets, mem_firstOccurrences, flatMap_subnetNames, mem_shownNames]
  simp

/-- **`localSubnets_inOrder`** — of two subnets of the host the one that is shown first stands first. -/
theorem localSubnets_inOrder (is : List Interface) :
    (localSubnets is).Pairwise fun x y => (shownNames is).idxOf x < (shownNames is).idxOf y := by
  rw [localSubnets, flatMap_subnetNames]
  exact pairwise_firstOccurrences [] _

theorem nodup_localSubnets (is : List Interface) : (localSubnets is).Nodup := by
  apply (localSubnets_inOrder is).imp
  rintro x y hlt rfl
  exact Nat.lt_irrefl _ hlt

/-- The subnets of a host have plain names. -/
theorem exists_eq_name (h : name ∈ localSubnets is) : ∃ n : Subnet, name = n.name := by
  obtain ⟨-, -, a, -, -, ha⟩ := mem_localSubnets.mp h
  exact ⟨Subnet.ofAddress a, ha⟩

/-- Plain names are read as the subnets whose names they are. -/
theorem map_name_parsed {names : List String} (h : ∀ name ∈ names, ∃ n : Subnet, name = n.name) :
    (names.filterMap Subnet.parse?).map Subnet.name = names := by
  induction names with
  | nil => rfl
  | cons name names ih =>
      obtain ⟨⟨n, rfl⟩, hmore⟩ := List.forall_mem_cons.mp h
      rw [List.filterMap_cons_some (Subnet.parse?_name n), List.map_cons, ih hmore]

/-- **`map_name_localSubnets`** — every name of a subnet of the host is read, and read as a subnet that has it. -/
theorem map_name_localSubnets (is : List Interface) :
    ((localSubnets is).filterMap Subnet.parse?).map Subnet.name = localSubnets is :=
  map_name_parsed fun _ h => exists_eq_name h

/-- No subnet of the host is read twice. -/
theorem nodup_parsed (is : List Interface) : ((localSubnets is).filterMap Subnet.parse?).Nodup := by
  apply List.Nodup.of_map Subnet.name
  rw [map_name_localSubnets]
  exact nodup_localSubnets is

end LanCensus
