/-
# LanCensus.Proofs.Detect.OpenPorts -- open ports in any order

The attempts on the ports of a host end in any order, and the best rank is kept while they do. At every moment it
is the least one of the attempts that have succeeded, which does not depend on their order; so the first rule
whose port accepts decides (`label_of_open_ports`).
-/

import LanCensus.Detect.OpenPorts
import Mathlib.Data.List.Basic
import Mathlib.Order.Lattice

namespace LanCensus.Detect

/-! ## The best rank -/

/-- The ranks of the attempts that succeeded. -/
def successes (ended : List (Nat × Bool)) : List Nat :=
  ended.filterMap fun (rank, accepted) => if accepted then some rank else none

theorem mem_successes {ended : List (Nat × Bool)} {rank : Nat} :
    rank ∈ successes ended ↔ (rank, true) ∈ ended := by
  rw [successes, List.mem_filterMap]
  constructor
  · rintro ⟨⟨rank', accepted⟩, hmem, hrank⟩
    cases accepted with
    | true => exact Option.some_inj.mp hrank ▸ hmem
    | false => cases hrank
  · exact fun hmem => ⟨(rank, true), hmem, rfl⟩

/-- One more attempt that succeeds. -/
theorem betterRank_some (best rank : Nat) : betterRank (some best) rank = some (min best rank) := rfl

/-- The attempts that are still to end, after one has succeeded. -/
theorem foldl_betterRank (ranks : List Nat) (best : Nat) :
    ranks.foldl betterRank (some best) = some (ranks.foldl min best) := by
  induction ranks generalizing best with
  | nil => rfl
  | cons rank ranks ih => rw [List.foldl_cons, betterRank_some, ih, List.foldl_cons]

theorem bestRank_eq_min? (ended : List (Nat × Bool)) : bestRank ended = (successes ended).min? := by
  change (successes ended).foldl betterRank none = (successes ended).min?
  cases successes ended with
  | nil => rfl
  | cons rank ranks => exact foldl_betterRank ranks rank

/-- **`bestRank_eq_some_iff`** — at every moment, the best rank is the least that has succeeded. -/
theorem bestRank_eq_some_iff {ended : List (Nat × Bool)} {rank : Nat} :
    bestRank ended = some rank ↔ (rank, true) ∈ ended ∧ ∀ other, (other, true) ∈ ended → rank ≤ other := by
  simp only [bestRank_eq_min?, List.min?_eq_some_iff, mem_successes]

theorem bestRank_eq_none_iff {ended : List (Nat × Bool)} :
    bestRank ended = none ↔ ∀ rank, (rank, true) ∉ ended := by
  simp only [bestRank_eq_min?, List.min?_eq_none_iff, List.eq_nil_iff_forall_not_mem, mem_successes]

/-! ## The rule that decides -/

section Attempts

variable {rules : List PortRule} {accepts : Nat → Bool} {ended : List (Nat × Bool)}

theorem mem_attempts_iff {rank : Nat} :
    (rank, true) ∈ attempts accepts rules ↔ ∃ h : rank < rules.length, accepts rules[rank].port = true := by
  simp [attempts, List.mem_mapIdx]

/-- **`bestRank_eq_findIdx?`** — when all attempts have ended, the best rank is that of the first rule whose port
accepts. -/
theorem bestRank_eq_findIdx? (h : ended.Perm (attempts accepts rules)) :
    bestRank ended = rules.findIdx? fun r => accepts r.port := by
  have hmem (rank : Nat) : (rank, true) ∈ ended ↔ ∃ h : rank < rules.length, accepts rules[rank].port = true :=
    h.mem_iff.trans mem_attempts_iff
  cases hfirst : rules.findIdx? fun r => accepts r.port with
  | none =>
      rw [bestRank_eq_none_iff]
      rintro rank hrank
      obtain ⟨hlt, haccepts⟩ := (hmem rank).mp hrank
      have hcloses := List.findIdx?_eq_none_iff.mp hfirst rules[rank] (List.getElem_mem hlt)
      exact absurd haccepts (Bool.eq_false_iff.mp hcloses)
  | some rank =>
      obtain ⟨hlt, haccepts, hbefore⟩ := List.findIdx?_eq_some_iff_getElem.mp hfirst
      refine bestRank_eq_some_iff.mpr ⟨(hmem rank).mpr ⟨hlt, haccepts⟩, fun other hother => ?_⟩
      obtain ⟨hlt', haccepts'⟩ := (hmem other).mp hother
      exact Nat.le_of_not_lt fun hearlier => hbefore other hearlier haccepts'

/-- The label is that of the first rule whose port accepts. -/
theorem labelOfAttempts_eq (h : ended.Perm (attempts accepts rules)) :
    labelOfAttempts rules ended = (rules.find? fun r => accepts r.port).map (·.label) := by
  rw [labelOfAttempts, bestRank_eq_findIdx? h, List.find?_eq_bind_findIdx?_getElem?, Option.map_bind]
  rfl

end Attempts

/-- **`label_of_open_ports`** — in whichever order the attempts end, the label of a host is that of the first rule
whose port accepts, and it has none if no port of a rule does. -/
theorem label_of_open_ports (rules : List PortRule) (accepts : Nat → Bool) (ended : List (Nat × Bool))
    (h : ended.Perm (attempts accepts rules)) :
    (∀ label, labelOfAttempts rules ended = some label ↔
      ∃ before r after, rules = before ++ r :: after ∧ (∀ q ∈ before, accepts q.port = false) ∧
        accepts r.port = true ∧ r.label = label) ∧
    (labelOfAttempts rules ended = none ↔ ∀ r ∈ rules, accepts r.port = false) ∧
    labelOfAttempts rules ended = labelByPorts rules accepts := by
  rw [labelByPorts, labelOfAttempts_eq h, labelOfAttempts_eq (.refl (attempts accepts rules))]
  refine ⟨fun label => ?_, ?_, rfl⟩
  · rw [Option.map_eq_some_iff]
    constructor
    · rintro ⟨r, hfind, hlabel⟩
      obtain ⟨haccepts, before, after, hrules, hbefore⟩ := List.find?_eq_some_iff_append.mp hfind
      exact ⟨before, r, after, hrules, fun q hq => Bool.not_eq_true' _ ▸ hbefore q hq, haccepts, hlabel⟩
    · rintro ⟨before, r, after, hrules, hbefore, haccepts, hlabel⟩
      refine ⟨r, List.find?_eq_some_iff_append.mpr ⟨haccepts, before, after, hrules, fun q hq => ?_⟩, hlabel⟩
      rw [hbefore q hq]
      rfl
  · rw [Option.map_eq_none_iff, List.find?_eq_none]
    exact forall₂_congr fun r _ => Bool.eq_false_iff.symm

/-- Rules two of which are for one port and two of which have one label. -/
def overlappingRules : List PortRule := [⟨631, "Printer"⟩, ⟨22, "Terminal"⟩, ⟨445, "Computer"⟩, ⟨22, "Computer"⟩]

theorem overlappingRules_labelled :
    [(2, true), (3, true), (0, false), (1, true)].Perm (attempts (· != 631) overlappingRules) ∧
      labelOfAttempts overlappingRules [(2, true), (3, true), (0, false), (1, true)] = some "Terminal" := by
  have h : [(2, true), (3, true), (0, false), (1, true)].Perm (attempts (· != 631) overlappingRules) := by decide
  obtain ⟨hlabel, -, -⟩ := label_of_open_ports overlappingRules (· != 631) _ h
  exact ⟨h, (hlabel "Terminal").mpr ⟨[⟨631, "Printer"⟩], ⟨22, "Terminal"⟩, _, rfl, by decide, by decide, rfl⟩⟩

end LanCensus.Detect
