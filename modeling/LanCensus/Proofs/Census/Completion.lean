/-
# LanCensus.Proofs.Census.Completion -- what follows a change of the inventory

Apart from its owner only a sweep that has set out changes the inventory of a census, and a sweep that has
set out goes on until it announces that it has been completed. So whoever listens is told after every
change that there is something to save. The exception is a sweep that fails as it sets out
(`Deed.overloads`): it has marked the devices offline, and nothing is announced any more.

Whatever changes, a record says that its device was last seen at an instant that the clock has shown, or
that an earlier record gave (`seenAt_of_take`).
-/

import LanCensus.Proofs.Census.Overload

namespace LanCensus

/-- A sweep fails as it sets out. -/
def Deed.overloads (x : Deed) : Prop := x.setsOut ∧ x.step.crashes

namespace Census

variable {c e : Census} {s s' : Sweep} {t : Turn} {ps : List Probe} {R : Records}

/-! ## Sweeps that have set out -/

/-- **`IsUnderWay c`** — a sweep has set out and is not over. -/
def IsUnderWay (c : Census) : Prop := ∃ s ∈ c.sweeps, s.phase.hasSetOut = true

/-- A census at rest has no sweep under way. -/
theorem AtRest.not_isUnderWay (h : c.AtRest) (hreg : c.IsRegular) : ¬ c.IsUnderWay := by
  rintro ⟨s, hs, hset⟩
  have hbusy := hreg.orderly.sweeps.busy_of s hs (Sweep.Phase.inFlight_of_hasSetOut hset)
  cases h.1.symm.trans hbusy

/-- A sweep that has set out stays under way until it has nothing left to wait for. -/
theorem Advance.hasSetOut (h : c.Advance s t ps s' R) (hset : s.phase.hasSetOut = true) :
    s'.phase.hasSetOut = true ∨ t = .proceed s.id ∧ s.phase = .draining := by
  cases h with
  | aside | remove | ping | endProbe => exact .inl hset
  | halt hp | overload hp | setOut hp | collapse hp =>
      rw [hp] at hset
      cases hset
  | await | stop | wake => exact .inl rfl
  | dispatch _ _ _ _ hφ => rcases hφ with rfl | ⟨w, rfl⟩ <;> exact .inl rfl
  | complete hp => exact .inr ⟨rfl, hp⟩

/-- A sweep that is completed announces it. -/
theorem notices_complete (c : Census) (s : Sweep) :
    ∃ later, (c.complete s).notices = later ++ .schedule (.sweepCompleted c.now) :: c.notices := by
  let b : Census := ({ c with lastSweep := some c.now }).announce (.schedule (.sweepCompleted c.now))
  -- Only the schedule may come between the completion and the end of the sweep.
  have hplan : ∀ (plan : Bool) (due : Option Instant),
      ∃ l, (if plan then b.setNextSweep due else b).notices = l ++ b.notices := by
    intro plan due
    cases plan with
    | false => exact ⟨[], rfl⟩
    | true =>
        rw [if_pos rfl, setNextSweep]
        split
        · exact ⟨[], rfl⟩
        · exact ⟨[_], rfl⟩
  obtain ⟨l, hl⟩ := hplan (b.armed && s.options.continuous) (some (dueAfter b.now s.options.interval))
  exact ⟨_ :: _ :: l, congrArg (fun ns => _ :: _ :: ns) hl⟩

/-- **`isUnderWay_or_completed`** — a sweep that has set out is under way until its completion is announced.
-/
theorem isUnderWay_or_completed (hreg : c.IsRegular) (ht : c.take t = some e) (hc : c.IsUnderWay) :
    e.IsUnderWay ∨
      ∃ later, e.notices = later ++ .schedule (.sweepCompleted c.now) :: c.notices := by
  obtain ⟨s, hmem, hset⟩ := hc
  have hs : c.steering.sweep? s.id = some s := hreg.orderly.sweep?_of_mem hmem
  have hf := Sweep.Phase.inFlight_of_hasSetOut hset
  obtain ⟨s', hs', hadv⟩ := advance_of_take hreg.orderly hreg.supplied hs hf ht
  rcases hadv.hasSetOut hset with hset' | ⟨rfl, hp⟩
  · exact .inl ⟨s', Steering.mem_of_sweep? hs', hset'⟩
  · simp only [take_proceed hs, proceed, hp] at ht
    split at ht <;> cases ht
    exact .inr (notices_complete c s)

/-- A sweep that learns of its subnets and changes the inventory has set out, unless it fails. -/
theorem isUnderWay_of_listing (hreg : c.IsRegular) {id : Nat} {names : List String}
    (ht : c.take (.list id (.ok names)) = some e) (hs : c.steering.sweep? id = some s)
    (hp : s.phase = .listing) (hchange : e.inventory ≠ c.inventory) :
    e.IsUnderWay ∨ Deed.overloads ⟨c, .list id (.ok names), e⟩ := by
  obtain rfl := Steering.id_of_sweep? hs
  have hf : s.phase.inFlight = true := by
    rw [hp]
    rfl
  obtain ⟨s', hs', hadv⟩ := advance_of_take hreg.orderly hreg.supplied hs hf ht
  have hphase := Steering.phase?_of_sweep? hs'
  generalize e.probes = ps at hadv
  generalize hR : e.records = R at hadv
  cases hadv with
  | aside hno => cases hno
  | halt => exact absurd (congrArg Records.inventory hR) hchange
  | overload _ _ hn hq =>
      refine .inr ⟨⟨s, names, hs, hp, rfl, hn, hq⟩, ?_⟩
      exact (hreg.orderly.crashes_iff hs hf hphase).mpr rfl
  | setOut => exact .inl ⟨_, Steering.mem_of_sweep? hs', rfl⟩

/-- **`isUnderWay_of_change`** — whatever changes the inventory, if it is not the owner, is a sweep under
way or one that fails as it sets out. -/
theorem isUnderWay_of_change (hreg : c.IsRegular) (ht : c.take t = some e) (hrem : t.isRemoval = false)
    (hc : ¬ c.IsUnderWay) (hchange : e.inventory ≠ c.inventory) :
    e.IsUnderWay ∨ Deed.overloads ⟨c, t, e⟩ := by
  have hw := take_writes ht
  generalize hR : e.records = R at hw
  have hsame : ∀ {R' : Records}, e.records = R' → R'.inventory = c.inventory → False := fun hR h =>
    hchange ((congrArg Records.inventory hR).trans h)
  -- A probe under way would belong to a sweep that has set out.
  have hprobe : ∀ {id : Nat} {p : Probe}, c.steering.probe? id = some p → False := fun hp => by
    obtain ⟨u, hu, -, hset⟩ := hreg.supplied.belong _ (List.mem_of_find?_eq_some hp)
    exact hc ⟨u, hu, hset⟩
  cases hw with
  | remove | removeUnknown => cases hrem
  | setOut hs hp => exact isUnderWay_of_listing hreg ht hs hp hchange
  | miss hp | missUnknown hp | meet hp => exact (hprobe hp).elim
  | _ => exact (hsame hR rfl).elim

end Census

/-! ## When devices were last seen -/

/-- **`r.SeenAt P`** — every device was last seen at an instant of kind `P`. -/
def Inventory.SeenAt (r : Inventory) (P : Instant → Prop) : Prop := ∀ d ∈ r.toList, P d.lastSeen

namespace Inventory

variable {r : Inventory} {P : Instant → Prop}

theorem mem_toList_of_find? {a : Address} {d : Device} (h : r.find? a = some d) : d ∈ r.toList := by
  have hlookup : ∀ {es : List (Address × Device)}, AddressMap.lookup a es = some d →
      d ∈ es.map (·.2) := by
    intro es
    induction es with
    | nil => exact nofun
    | cons b es ih =>
        intro h
        rw [AddressMap.lookup] at h
        split at h
        · exact List.mem_cons.mpr (.inl (Option.some.inj h).symm)
        · exact List.mem_cons_of_mem _ (ih h)
  exact hlookup h

theorem mem_toList_insert {a : Address} {x d : Device} (h : d ∈ toList ⟨r.devices.insert a x⟩) :
    d = x ∨ d ∈ r.toList := by
  obtain ⟨b, hb, rfl⟩ := List.mem_map.mp h
  exact (AddressMap.mem_put hb).imp (congrArg Prod.snd) fun hb => List.mem_map_of_mem hb

namespace SeenAt

theorem insert (h : r.SeenAt P) {a : Address} {d : Device} (hd : P d.lastSeen) :
    SeenAt ⟨r.devices.insert a d⟩ P := by
  intro b hb
  rcases mem_toList_insert hb with rfl | hb
  · exact hd
  · exact h b hb

theorem remove (h : r.SeenAt P) (a : Address) : (r.remove a).SeenAt P := by
  intro d hd
  obtain ⟨b, hb, rfl⟩ := List.mem_map.mp hd
  exact h _ (List.mem_map_of_mem (List.mem_of_mem_filter hb))

theorem allOffline (h : r.SeenAt P) : r.allOffline.SeenAt P := by
  intro d hd
  obtain ⟨e, he, rfl⟩ := List.mem_map.mp hd
  obtain ⟨b, hb, rfl⟩ := List.mem_map.mp he
  exact h b.2 (List.mem_map_of_mem hb)

theorem offline (h : r.SeenAt P) (a : Address) : (r.offline a).SeenAt P := by
  unfold Inventory.offline
  split
  · next known hk => exact h.insert (h known (mem_toList_of_find? hk))
  · exact h

theorem absorb (h : r.SeenAt P) {d : Device} (hd : P d.lastSeen) : (r.absorb d).SeenAt P := by
  refine h.insert ?_
  unfold merged
  split
  · next known hk =>
    show P (known.lastSeen.later d.lastSeen)
    unfold Instant.later
    split
    · exact hd
    · exact h known (mem_toList_of_find? hk)
  · exact hd

end SeenAt

end Inventory

/-- **`seenAt_of_take`** — a turn dates a record by the clock, or not at all. -/
theorem Census.seenAt_of_take {c e : Census} {t : Turn} {P : Instant → Prop} (ht : c.take t = some e)
    (h : c.inventory.SeenAt P) (hnow : P c.now) : e.inventory.SeenAt P := by
  have hw := take_writes ht
  show e.records.inventory.SeenAt P
  generalize e.records = R at hw
  cases hw with
  | remove => exact h.remove _
  | setOut => exact h.allOffline
  | miss => exact h.offline _
  | meet => exact h.absorb hnow
  | _ => exact h

end LanCensus
