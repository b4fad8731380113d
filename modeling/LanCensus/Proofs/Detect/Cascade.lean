/-
# LanCensus.Proofs.Detect.Cascade -- the first label in the order of priority counts

A ranking of detectors is determined by what it must respect: the priorities fall, and detectors of one
priority come in the order in which they were registered (`eq_of_filter_eq`). So a cascade depends only on
the order within each priority (`byPriority_eq_iff`), and detectors of different priorities may be
registered in any order.

A cascade is worked off from the front. Detectors with nothing to say are passed over, the first one with a
label ends the search, and those after it are not asked (`Hearing`).
-/

import LanCensus.Detect.Cascade
import LanCensus.Proofs.Text.Blank
import Mathlib.Data.List.Basic

namespace LanCensus.Detect

/-! ## Rankings -/

section

variable {δ : Type} {priority : δ → Int} {ds es : List δ}

/-- **`IsRanking priority ds es`** — `es` holds just what `ds` holds, the highest priority first, and those
of one priority in the order in which they stand in `ds`. -/
structure IsRanking (priority : δ → Int) (ds es : List δ) : Prop where
  perm : es.Perm ds
  falling : es.Pairwise fun d e => priority e ≤ priority d
  stable : ∀ p, es.filter (priority · = p) = ds.filter (priority · = p)

theorem isRanking_byPriority (priority : δ → Int) (ds : List δ) :
    IsRanking priority ds (byPriority priority ds) := by
  have htrans : ∀ a b c : δ, decide (priority b ≤ priority a) = true →
      decide (priority c ≤ priority b) = true → decide (priority c ≤ priority a) = true := by
    intro a b c hab hbc
    exact decide_eq_true (Int.le_trans (of_decide_eq_true hbc) (of_decide_eq_true hab))
  have htotal : ∀ a b : δ, (decide (priority b ≤ priority a) || decide (priority a ≤ priority b)) = true := by
    intro a b
    rw [Bool.or_eq_true, decide_eq_true_iff, decide_eq_true_iff]
    exact Int.le_total _ _
  have hperm := List.mergeSort_perm ds fun a b => decide (priority b ≤ priority a)
  refine ⟨hperm, ?_, fun p => ?_⟩
  · exact (List.pairwise_mergeSort htrans htotal ds).imp of_decide_eq_true
  · -- Those of one priority stand in `ds` in an order that sorting may keep, so it does.
    have htied : (ds.filter (priority · = p)).Pairwise fun a b => decide (priority b ≤ priority a) = true := by
      refine List.pairwise_of_forall_mem_list fun a ha b hb => decide_eq_true ?_
      calc priority b = p := of_decide_eq_true (List.mem_filter.mp hb).2
        _ ≤ priority a := Int.le_of_eq (of_decide_eq_true (List.mem_filter.mp ha).2).symm
    have hsub := (List.sublist_mergeSort htrans htotal htied List.filter_sublist).filter (priority · = p)
    rw [List.filter_filter, List.filter_congr fun d _ => Bool.and_self _] at hsub
    exact (hsub.eq_of_length (hperm.filter _).length_eq.symm).symm

/-- Falling priorities and the order within each of them leave nothing open. -/
theorem eq_of_filter_eq (hds : ds.Pairwise fun d e => priority e ≤ priority d)
    (hes : es.Pairwise fun d e => priority e ≤ priority d)
    (h : ∀ p, ds.filter (priority · = p) = es.filter (priority · = p)) : ds = es := by
  have hmem : ∀ d, d ∈ ds ↔ d ∈ es := fun d => by
    have hd := congrArg (d ∈ ·) (h (priority d))
    simpa using hd
  induction ds generalizing es with
  | nil =>
      cases es with
      | nil => rfl
      | cons e es => cases (hmem e).mpr List.mem_cons_self
  | cons d ds ih =>
      cases es with
      | nil => cases (hmem d).mp List.mem_cons_self
      | cons e es =>
          rw [List.pairwise_cons] at hds hes
          have hle : priority d ≤ priority e := by
            rcases List.mem_cons.mp ((hmem d).mp List.mem_cons_self) with rfl | hd
            · exact Int.le_refl _
            · exact hes.1 d hd
          have hge : priority e ≤ priority d := by
            rcases List.mem_cons.mp ((hmem e).mpr List.mem_cons_self) with rfl | he
            · exact Int.le_refl _
            · exact hds.1 e he
          have heq : priority e = priority d := Int.le_antisymm hge hle
          have hhead := h (priority d)
          rw [List.filter_cons_of_pos (by simp), List.filter_cons_of_pos (by simp [heq])] at hhead
          obtain ⟨rfl, -⟩ := List.cons.inj hhead
          have htail : ∀ p, ds.filter (priority · = p) = es.filter (priority · = p) := fun p => by
            have hp := h p
            simp only [List.filter_cons] at hp
            split at hp
            · exact (List.cons.inj hp).2
            · exact hp
          rw [ih hds.2 hes.2 htail fun d => ?_]
          have hd := congrArg (d ∈ ·) (htail (priority d))
          simpa using hd

/-- **`byPriority_eq_iff`** — two registrations rank alike exactly if each priority occurs in them in the same
order. -/
theorem byPriority_eq_iff : byPriority priority ds = byPriority priority es ↔
    ∀ p, ds.filter (priority · = p) = es.filter (priority · = p) := by
  have hds := isRanking_byPriority priority ds
  have hes := isRanking_byPriority priority es
  constructor
  · intro h p
    rw [← hds.stable p, h, hes.stable p]
  · intro h
    refine eq_of_filter_eq hds.falling hes.falling fun p => ?_
    rw [hds.stable p, h p, hes.stable p]

/-- Where all priorities differ, every order is as good. -/
theorem filter_eq_of_perm (hperm : es.Perm ds) (hdiffer : (ds.map priority).Nodup) (p : Int) :
    es.filter (priority · = p) = ds.filter (priority · = p) := by
  have halone : ∀ xs : List δ, (xs.map priority).Nodup →
      (xs.filter (priority · = p)).Pairwise fun _ _ => False := by
    intro xs hxs
    have hne := (List.pairwise_map.mp hxs).filter (priority · = p)
    refine hne.imp_of_mem fun {a b} ha hb hab => hab ?_
    rw [of_decide_eq_true (List.mem_filter.mp ha).2, of_decide_eq_true (List.mem_filter.mp hb).2]
  have hes := (hperm.map priority).nodup_iff.mpr hdiffer
  exact List.Perm.eq_of_pairwise (fun _ _ _ _ h => h.elim) (halone es hes) (halone ds hdiffer)
    (hperm.filter _)

end

/-! ## Labels -/

theorem label?_eq_none_iff {answer : Option String} :
    label? answer = none ↔ ∀ s ∈ answer, Text.allBlank s.toList = true := by
  simp only [label?, Option.filter_eq_none_iff, Option.map_eq_some_iff, forall_exists_index, and_imp,
    forall_apply_eq_imp_iff₂, decide_eq_true_eq, not_not, Text.trimmed_eq_empty_iff, Option.mem_def]

theorem label?_eq_some_iff {answer : Option String} {label : String} : label? answer = some label ↔
    ∃ s ∈ answer, Text.allBlank s.toList = false ∧ Text.trimmed s = label := by
  simp only [label?, Option.filter_eq_some_iff, Option.map_eq_some_iff, decide_eq_true_eq, Option.mem_def]
  constructor
  · rintro ⟨⟨s, hs, rfl⟩, hne⟩
    exact ⟨s, hs, Bool.eq_false_iff.mpr (mt Text.trimmed_eq_empty_iff.mpr hne), rfl⟩
  · rintro ⟨s, hs, hsaid, rfl⟩
    exact ⟨⟨s, hs, rfl⟩, fun h => by rw [Text.trimmed_eq_empty_iff.mp h] at hsaid; cases hsaid⟩

/-! ## Asking in turn -/

namespace Detector

/-- The detector answers nothing, or a blank. -/
def IsSilent (d : Detector) (a : Address) : Prop := ∀ s ∈ d.answer a, Text.allBlank s.toList = true

/-- The detector answers a text that is not blank, and `label` is what trimming leaves of it. -/
def Says (d : Detector) (a : Address) (label : String) : Prop :=
  ∃ s ∈ d.answer a, Text.allBlank s.toList = false ∧ Text.trimmed s = label

end Detector

/-- **`Hearing a ds label asked`** — detectors in a row are asked about an address: what comes of it, and the
names of those that were asked, each in its place. -/
inductive Hearing (a : Address) : List Detector → Option String → List String → Prop
  /-- The first that has a label ends the hearing. -/
  | found {before after : List Detector} {d : Detector} {label : String} :
      (∀ e ∈ before, e.IsSilent a) → d.Says a label →
      Hearing a (before ++ d :: after) (some label) ((before ++ [d]).map (·.name))
  /-- All were asked in vain. -/
  | vain {ds : List Detector} : (∀ d ∈ ds, d.IsSilent a) → Hearing a ds none (ds.map (·.name))

/-- One more detector in front that has nothing to say is asked in vain. -/
theorem Hearing.silent_cons {a : Address} {ds : List Detector} {d : Detector} {label : Option String}
    {asked : List String} (h : Hearing a ds label asked) (hsilent : d.IsSilent a) :
    Hearing a (d :: ds) label (d.name :: asked) := by
  cases h with
  | @found before after _ _ hbefore hsays =>
      exact @Hearing.found a (d :: before) after _ _ (List.forall_mem_cons.mpr ⟨hsilent, hbefore⟩) hsays
  | vain hall => exact .vain (List.forall_mem_cons.mpr ⟨hsilent, hall⟩)

theorem hearing_askInTurn (a : Address) (ds : List Detector) :
    Hearing a ds (askInTurn a ds).1 (askInTurn a ds).2 := by
  induction ds with
  | nil => exact .vain nofun
  | cons d rest ih =>
      rw [askInTurn]
      cases hlabel : label? (d.answer a) with
      | some label => exact @Hearing.found a [] rest d label nofun (label?_eq_some_iff.mp hlabel)
      | none =>
          have hsilent : d.IsSilent a := label?_eq_none_iff.mp hlabel
          exact ih.silent_cons hsilent

/-- Nothing comes of a hearing exactly if nobody has anything to say, and then all were asked. -/
theorem Hearing.eq_none_iff {a : Address} {ds : List Detector} {label : Option String} {asked : List String}
    (h : Hearing a ds label asked) :
    label = none ↔ asked = ds.map (·.name) ∧ ∀ d ∈ ds, d.IsSilent a := by
  cases h with
  | @found before after d _ hbefore hsays =>
      obtain ⟨s, hs, hsaid, -⟩ := hsays
      refine ⟨nofun, fun ⟨_, hall⟩ => ?_⟩
      rw [hall d (List.mem_append_right _ List.mem_cons_self) s hs] at hsaid
      cases hsaid
  | vain hall => exact ⟨fun _ => ⟨rfl, hall⟩, fun _ => rfl⟩

/-! ## The whole -/

namespace Cascade

/-- **`asks_by_priority`** — whatever detectors are registered, with whatever priorities, names and answers.
The cascade ranks them. About an address it asks from the front until one has a label, and it has none exactly
if all were asked and none had anything to say. A registration in which each priority occurs in the same order
makes the same cascade, and so does every order if no two priorities are equal. -/
theorem asks_by_priority (ds : List Detector) :
    IsRanking Detector.priority ds (ofList ds).detectors ∧
    (∀ a, Hearing a (ofList ds).detectors ((ofList ds).label a) ((ofList ds).asked a)) ∧
    (∀ a, (ofList ds).label a = none ↔
      (ofList ds).asked a = (ofList ds).names ∧ ∀ d ∈ (ofList ds).detectors, d.IsSilent a) ∧
    (∀ es : List Detector, (∀ p, es.filter (·.priority = p) = ds.filter (·.priority = p)) →
      ofList es = ofList ds) ∧
    ∀ es : List Detector, es.Perm ds → (ds.map Detector.priority).Nodup → ofList es = ofList ds := by
  have hearing (a : Address) : Hearing a (ofList ds).detectors ((ofList ds).label a) ((ofList ds).asked a) :=
    hearing_askInTurn a _
  have reordered (es : List Detector) (h : ∀ p, es.filter (·.priority = p) = ds.filter (·.priority = p)) :
      ofList es = ofList ds := congrArg Cascade.mk (byPriority_eq_iff.mpr h)
  exact ⟨isRanking_byPriority _ ds, hearing, fun a => (hearing a).eq_none_iff, reordered,
    fun es hperm hdiffer => reordered es (filter_eq_of_perm hperm hdiffer)⟩

/-- Three detectors in the order of their priority, from the highest one there is to the lowest. -/
def threeDetectors : List Detector :=
  [⟨"blank", 2147483647, fun _ => some "  "⟩, ⟨"silent", 0, fun _ => none⟩,
   ⟨"printers", -2147483648, fun _ => some " Printer "⟩]

/-- They may as well be registered the other way round. -/
theorem threeDetectors_reversed : threeDetectors.reverse.Perm threeDetectors ∧
    (threeDetectors.map Detector.priority).Nodup ∧
    (ofList threeDetectors.reverse).names = ["blank", "silent", "printers"] ∧
    (ofList threeDetectors.reverse).label ⟨10, 0, 0, 7⟩ = some "Printer" ∧
    (ofList threeDetectors.reverse).asked ⟨10, 0, 0, 7⟩ = ["blank", "silent", "printers"] := by
  have hperm : threeDetectors.reverse.Perm threeDetectors := List.reverse_perm _
  have hdiffer : (threeDetectors.map Detector.priority).Nodup := by decide
  have hsorted : ofList threeDetectors = ⟨threeDetectors⟩ := by
    refine congrArg Cascade.mk (List.mergeSort_of_pairwise ?_)
    simp [threeDetectors]
  obtain ⟨-, -, -, -, hreorder⟩ := asks_by_priority threeDetectors
  rw [hreorder _ hperm hdiffer, hsorted]
  exact ⟨hperm, hdiffer, by decide, by decide, by decide⟩

end Cascade

end LanCensus.Detect
