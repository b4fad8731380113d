/-
# LanCensus.Proofs.Census.Itinerary -- the addresses of a sweep, in their order

A sweep that has been told its subnets has an itinerary: the addresses of the subnets in the order of
the list, octets ascending. `dispatchedBy` reads off a history which addresses a sweep has really
turned to, in which order: those of the probes that came under way.

`Sweep.OnRoute` relates the two. Whatever else happens, as long as nobody pauses the census the
addresses that have been dispatched and those that are left make up the itinerary, and a sweep that
dispatches no more has left none out (`OnRoute.advance`).
-/

import LanCensus.Proofs.Census.Advance
import Mathlib.Data.List.Sort

namespace LanCensus

/-! ## Itineraries -/

/-- The numbers between two bounds, ascending. -/
theorem range_filter_between {a b n : Nat} (hb : b < n) :
    ((List.range n).filter fun k => a ≤ k ∧ k ≤ b) = (List.range (b + 1 - a)).map (a + ·) := by
  apply (List.pairwise_lt_range.filter _).eq_of_mem_iff
  · rw [List.pairwise_map]
    exact List.pairwise_lt_range.imp fun h => Nat.add_lt_add_left h a
  · intro k
    simp only [List.mem_filter, List.mem_map, List.mem_range, decide_eq_true_eq]
    constructor
    · rintro ⟨-, ha, hk⟩
      exact ⟨k - a, by omega, by omega⟩
    · rintro ⟨i, hi, rfl⟩
      omega

namespace Sweep.Options

/-- **`route o ns`** — the addresses of the subnets whose last octets lie between the bounds of the
options, subnet by subnet and octets ascending. -/
def route (o : Options) (ns : List Subnet) : List Address :=
  ns.flatMap fun n =>
    ((List.range 256).filter fun k => o.startOctet.toNat ≤ k ∧ k ≤ o.endOctet.toNat).map
      fun k => n.host k.toUInt8

/-- The addresses that an answer to the question for subnets leads to. -/
def itinerary (o : Options) : Except SubnetError (List String) → List Address
  | .ok names => o.route (names.filterMap Subnet.parse?)
  | .error _ => []

theorem octets_eq (o : Options) :
    o.octets = ((List.range 256).filter fun k =>
      o.startOctet.toNat ≤ k ∧ k ≤ o.endOctet.toNat).map Nat.toUInt8 := by
  rw [range_filter_between o.endOctet.toNat_lt, List.map_map]
  rfl

theorem map_address_targetsOf (o : Options) (ns : List (String × Subnet)) :
    (Census.targetsOf o ns).map Target.address = o.route (ns.map Prod.snd) := by
  unfold route Census.targetsOf
  rw [octets_eq, List.map_flatMap, List.flatMap_map]
  refine List.flatMap_congr fun e _ => ?_
  rw [List.map_map, List.map_map]
  rfl

theorem map_snd_named (names : List String) :
    (Census.named names).map Prod.snd = names.filterMap Subnet.parse? := by
  rw [Census.named, List.map_filterMap]
  refine congrArg (List.filterMap · names) (funext fun name => ?_)
  cases Subnet.parse? name <;> rfl

theorem map_address_targetsOf_named (o : Options) (names : List String) :
    (Census.targetsOf o (Census.named names)).map Target.address = o.itinerary (.ok names) := by
  rw [map_address_targetsOf, map_snd_named]
  rfl

/-- Without subnets there is nothing to probe. -/
theorem itinerary_of_noSubnets (o : Options) {answer : Except SubnetError (List String)}
    (h : NoSubnets answer) : o.itinerary answer = [] := by
  cases answer with
  | error e => rfl
  | ok names =>
      rw [← map_address_targetsOf_named, show Census.named names = [] from h]
      rfl

end Sweep.Options

/-! ## What a history dispatches -/

/-- The addresses of the probes of the sweep that come under way with the turn. -/
def Step.launched (x : Step) (id : Nat) : List Address :=
  (x.after.probes.filter fun p =>
    p.sweep == id && x.before.probes.all fun q => q.id != p.id).map Probe.address

/-- **`dispatchedBy id h`** — the addresses that the sweep has dispatched in the history, the first
one in front. -/
def dispatchedBy (id : Nat) : List Step → List Address
  | [] => []
  | x :: h => dispatchedBy id h ++ x.launched id

namespace Step

variable {x : Step} {id : Nat}

theorem launched_eq_nil
    (h : ∀ p ∈ x.after.probes, p.sweep = id → ∃ q ∈ x.before.probes, q.id = p.id) :
    x.launched id = [] := by
  unfold launched
  rw [List.map_eq_nil_iff, List.filter_eq_nil_iff]
  intro p hp hnew
  rw [Bool.and_eq_true, List.all_eq_true] at hnew
  obtain ⟨q, hq, he⟩ := h p hp (beq_iff_eq.mp hnew.1)
  have hne := hnew.2 q hq
  simp [he] at hne

/-- The one new probe is the one that the sweep dispatches. -/
theorem launched_eq_singleton (hn : Numbered x.before) {p : Probe}
    (hp : x.after.probes = x.before.probes ++ [p]) (hfresh : p.id = x.before.fresh) :
    x.launched p.sweep = [p.address] := by
  have hold : ((x.before.probes.filter fun q =>
      q.sweep == p.sweep && x.before.probes.all fun r => r.id != q.id)) = [] := by
    rw [List.filter_eq_nil_iff]
    intro q hq hnew
    rw [Bool.and_eq_true, List.all_eq_true] at hnew
    simpa using hnew.2 q hq
  have hnew : (p.sweep == p.sweep && x.before.probes.all fun r => r.id != p.id) = true := by
    rw [Bool.and_eq_true, List.all_eq_true]
    refine ⟨beq_self_eq_true _, fun q hq => ?_⟩
    have hlt := hn.below q hq
    rw [bne_iff_ne, hfresh]
    exact Nat.ne_of_lt hlt
  rw [launched, hp, List.filter_append, hold, List.filter_singleton, hnew]
  rfl

end Step

/-! ## The sweep keeps to its itinerary -/

/-- **`s.OnRoute way sent`** — the addresses `sent` are those of `way` that the sweep should have
dispatched by now. -/
def Sweep.OnRoute (s : Sweep) (way sent : List Address) : Prop :=
  match s.phase with
  | .queued _ => False
  | .listing | .crashed => sent = []
  | .ready | .waiting | .resting _ => sent ++ s.targets.map Sweep.Target.address = way
  | .draining | .ended _ => sent = way

/-- A sweep that is over has failed, or it has left nothing out. -/
theorem Sweep.OnRoute.crashed_or_ended {s : Sweep} {way sent : List Address}
    (hr : s.OnRoute way sent) (h : ¬ s.phase.inFlight = true) :
    s.phase = .crashed ∨ (∃ l, s.phase = .ended l) ∧ sent = way := by
  unfold Sweep.OnRoute at hr
  cases hp : s.phase with
  | ended l =>
      rw [hp] at hr
      exact .inr ⟨⟨l, rfl⟩, hr⟩
  | crashed => exact .inl rfl
  | queued p =>
      rw [hp] at hr
      cases hr
  | _ =>
      rw [hp] at h
      exact absurd rfl h

/-- **`OnRoute.advance`** — while the census is not paused, every turn keeps the sweep on its way. -/
theorem Sweep.OnRoute.advance {c : Census} {s s' : Sweep} {t : Turn} {ps : List Probe} {R : Records}
    {way sent : List Address} {answer : Except SubnetError (List String)} (hr : s.OnRoute way sent)
    (hway : way = s.options.itinerary answer) (hn : Numbered c.steering) (hq : c.pauses = s.pauses)
    (hanswer : ∀ id names, t = .list id names → names = answer)
    (h : c.Advance s t ps s' R) {τ : Steering} (hτ : τ.probes = ps) :
    s'.OnRoute way (sent ++ (Step.mk c.steering t τ).launched s.id) := by
  -- Probes that are left, or have pinged their addresses, are not new.
  have hnone : (∀ p ∈ ps, ∃ q ∈ c.probes, q.id = p.id) →
      (Step.mk c.steering t τ).launched s.id = [] := by
    intro hold
    refine Step.launched_eq_nil (x := ⟨c.steering, t, τ⟩) fun p hp _ => hold p ?_
    rw [← hτ]
    exact hp
  have hsame : ps.Sublist c.probes → (Step.mk c.steering t τ).launched s.id = [] :=
    fun hsub => hnone fun p hp => ⟨p, hsub.subset hp, rfl⟩
  have hone : ∀ x, ps = c.probes ++ [c.probeFor s x] →
      (Step.mk c.steering t τ).launched s.id = [x.address] := by
    intro x hx
    exact Step.launched_eq_singleton (x := ⟨c.steering, t, τ⟩) (p := c.probeFor s x) hn
      (hτ.trans hx) rfl
  unfold Sweep.OnRoute at hr
  cases h with
  | aside | remove =>
      rw [hsame (List.Sublist.refl _), List.append_nil]
      exact hr
  | @halt names l hp _ hor =>
      rw [hp] at hr
      rw [hsame (List.nil_sublist _), List.append_nil]
      show sent = way
      have hno : NoSubnets answer := by
        rw [← hanswer _ _ rfl]
        exact hor.resolve_right fun hne => hne hq
      rw [hr, hway, s.options.itinerary_of_noSubnets hno]
  | overload hp | collapse hp =>
      rw [hp] at hr
      rw [hsame (List.nil_sublist _), List.append_nil]
      exact hr
  | @setOut names hp =>
      rw [hp] at hr
      rw [hsame (List.nil_sublist _), List.append_nil]
      show sent ++ (Census.targetsOf s.options (Census.named names)).map Sweep.Target.address = way
      rw [hr, List.nil_append, Sweep.Options.map_address_targetsOf_named, hanswer _ _ rfl, hway]
  | await hp =>
      rw [hp] at hr
      rw [hsame (List.Sublist.refl _), List.append_nil]
      exact hr
  | stop hp hor =>
      -- Nobody paused, so it stops because nothing is left.
      have hnil : s.targets = [] := hor.resolve_right fun hne => hne hq
      rw [hsame (List.Sublist.refl _), List.append_nil]
      show sent = way
      rcases hp with hp | hp <;> rw [hp, hnil] at hr <;> simpa using hr
  | @dispatch x rest φ hp hx _ _ hφ =>
      have hleft : sent ++ s.targets.map Sweep.Target.address = way := by
        rcases hp with hp | hp <;> rw [hp] at hr <;> exact hr
      rw [hx, List.map_cons] at hleft
      have hgoal : (sent ++ [x.address]) ++ rest.map Sweep.Target.address = way := by
        rw [List.append_assoc, List.singleton_append]
        exact hleft
      rw [hone x rfl]
      rcases hφ with rfl | ⟨w, rfl⟩ <;> exact hgoal
  | wake hp =>
      rw [hp] at hr
      rw [hsame (List.Sublist.refl _), List.append_nil]
      exact hr
  | complete hp =>
      rw [hp] at hr
      rw [hsame (List.nil_sublist _), List.append_nil]
      exact hr
  | @ping p =>
      rw [hnone fun q hq => ?_, List.append_nil]
      · exact hr
      · obtain ⟨r, hr, rfl⟩ := List.mem_map.mp hq
        refine ⟨r, hr, ?_⟩
        split <;> rfl
  | endProbe =>
      rw [hsame List.filter_sublist, List.append_nil]
      exact hr

end LanCensus
