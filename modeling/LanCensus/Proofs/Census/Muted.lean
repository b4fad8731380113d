/-
# LanCensus.Proofs.Census.Muted -- changes that nobody is told of

One who folds the announced changes of devices over the inventory that a census began with should have
its inventory. Every change but one is announced with the record that it leaves. The one is made by a
sweep that sets out: it marks all devices offline and leaves it to its probes to say so. Of a device
that no probe speaks of afterwards, because it lies outside the range of the sweep, because a pause or
a failure stopped the sweep before its address, or because its own probe failed, it is never said that
it is offline.

`heard_eq_iff` says that nothing else goes unheard: the inventory that was heard of is the inventory
exactly if no device has been muted and not been spoken of since.
-/

import LanCensus.Proofs.Census.Order
import LanCensus.Proofs.Census.Records
import LanCensus.Proofs.Inventory

namespace LanCensus

/-! ## Following a notice -/

/-- The record that a notice leaves at its address. -/
def DeviceNotice.record? : DeviceNotice → Option Device
  | .discovered d | .updated d => some d
  | .removed _ => none

theorem Inventory.find?_apply (r : Inventory) (n : DeviceNotice) (a : Address) :
    (r.apply n).find? a = if a = n.address then n.record? else r.find? a := by
  cases n with
  | discovered d => exact r.find?_store d a
  | updated d => exact r.find?_store d a
  | removed b => exact r.find?_remove b a

theorem Inventory.follow_reverse_cons (r : Inventory) (n : DeviceNotice) (ns : List DeviceNotice) :
    r.follow (n :: ns).reverse = (r.follow ns.reverse).apply n := by
  rw [follow, List.reverse_cons, List.foldl_append]
  rfl

theorem Inventory.IsSound.follow {r : Inventory} (h : r.IsSound) (ns : List DeviceNotice) :
    (r.follow ns).IsSound := by
  unfold Inventory.follow
  induction ns generalizing r with
  | nil => exact h
  | cons n ns ih =>
      apply ih
      cases n with
      | discovered d => exact h.store d
      | updated d => exact h.store d
      | removed a => exact h.remove a

/-- The notice of a probe result speaks of the record that is absorbed. -/
theorem Inventory.noticeOf_record? (r : Inventory) (d : Device) :
    (r.noticeOf d).record? = some (r.merged d) := by
  unfold noticeOf
  split <;> rfl

theorem Inventory.noticeOf_address (r : Inventory) (d : Device) :
    (r.noticeOf d).address = (r.merged d).address := by
  unfold noticeOf
  split <;> rfl

/-- The inventory that one has heard of who knew `r` at first. -/
def Records.heard (R : Records) (r : Inventory) : Inventory := r.follow R.changes.reverse

/-! ## Muted devices -/

namespace Deed

/-- A sweep sets out with the turn, and so marks every device offline. -/
def setsOut (x : Deed) : Prop :=
  ∃ s names, x.before.steering.sweep? s.id = some s ∧ s.phase = .listing ∧
    x.turn = .list s.id (.ok names) ∧ Census.named names ≠ [] ∧ x.before.pauses = s.pauses

/-- A sweep sets out and changes the record of the address: its device was not offline. -/
def mutes (a : Address) (x : Deed) : Prop :=
  x.setsOut ∧ ∃ d, x.before.inventory.find? a = some d ∧ d.offline ≠ d

/-- A change of the device with the address is announced. -/
def speaksOf (a : Address) (x : Deed) : Prop :=
  ∃ n : DeviceNotice, n.address = a ∧ x.after.records.changes = n :: x.before.records.changes

theorem not_setsOut_of_turn {x : Deed} (h : ∀ id names, x.turn ≠ .list id (.ok names)) :
    ¬ x.setsOut := by
  rintro ⟨s, names, -, -, ht, -⟩
  exact h _ _ ht

end Deed

/-- The device with the address has been muted and not been spoken of since. -/
def Muted (a : Address) (h : List Deed) : Prop := Since (Deed.mutes a) (Deed.speaksOf a) h

/-- **`Tracked muted heard actual`** — of an address that is not muted one has heard what is the case;
of one that is muted one has not heard that it is offline. -/
inductive Tracked (muted : Prop) : Option Device → Option Device → Prop
  | known {o : Option Device} : ¬ muted → Tracked muted o o
  | stale {d : Device} : muted → d.offline ≠ d → Tracked muted (some d) (some d.offline)

namespace Tracked

variable {muted muted' : Prop} {o o' : Option Device}

theorem congr (hk : Tracked muted o o') (h : muted' ↔ muted) : Tracked muted' o o' := by
  rw [propext h]
  exact hk

theorem eq_iff (hk : Tracked muted o o') : o = o' ↔ ¬ muted := by
  cases hk with
  | known hm => exact iff_of_true rfl hm
  | stale hm hd =>
      refine iff_of_false (fun h => hd ?_) (not_not.mpr hm)
      exact (Option.some.inj h).symm

/-- When a sweep sets out, a device that was not offline is muted. -/
theorem offline (hk : Tracked muted o o')
    (h : muted' ↔ (∃ d, o' = some d ∧ d.offline ≠ d) ∨ muted) :
    Tracked muted' o (o'.map Device.offline) := by
  cases hk with
  | known hm =>
      by_cases hd : ∃ d, o = some d ∧ d.offline ≠ d
      · have hm' := h.mpr (.inl hd)
        obtain ⟨d, rfl, hne⟩ := hd
        exact .stale hm' hne
      · have hsame : o.map Device.offline = o := by
          cases o with
          | none => rfl
          | some d => exact congrArg some (not_not.mp fun hne => hd ⟨d, rfl, hne⟩)
        rw [hsame]
        exact .known fun hm' => (h.mp hm').elim hd hm
  -- A muted device is offline already.
  | stale hm hd => exact .stale (h.mpr (.inr hm)) hd

end Tracked

section Turn

variable {a : Address} {x : Deed} {h : List Deed} {r : Inventory}

/-- A turn that writes nothing about devices. -/
theorem Tracked.same
    (hk : Tracked (Muted a h) ((x.before.records.heard r).find? a) (x.before.inventory.find? a))
    (hn : ¬ x.setsOut) (hc : x.after.records.changes = x.before.records.changes)
    (hi : x.after.records.inventory = x.before.inventory) :
    Tracked (Muted a (x :: h)) ((x.after.records.heard r).find? a)
      (x.after.records.inventory.find? a) := by
  rw [hi, Records.heard, hc]
  refine hk.congr ⟨fun hm => ?_, fun hm => .inr ⟨?_, hm⟩⟩
  · rcases hm with ⟨hs, -⟩ | ⟨-, hm⟩
    · exact (hn hs).elim
    · exact hm
  · rintro ⟨n, -, he⟩
    rw [hc] at he
    exact List.cons_ne_self _ _ he.symm

/-- A turn that changes one record, and announces the record that it leaves. -/
theorem Tracked.change
    (hk : Tracked (Muted a h) ((x.before.records.heard r).find? a) (x.before.inventory.find? a))
    (hn : ¬ x.setsOut) {n : DeviceNotice} {r' : Inventory}
    (hR : x.after.records = x.before.records.change n r')
    (hr' : ∀ b, r'.find? b = if b = n.address then n.record? else x.before.inventory.find? b) :
    Tracked (Muted a (x :: h)) ((x.after.records.heard r).find? a)
      (x.after.records.inventory.find? a) := by
  have hheard : x.after.records.heard r = (x.before.records.heard r).apply n := by
    rw [hR]
    exact r.follow_reverse_cons n _
  have hchanges : x.after.records.changes = n :: x.before.records.changes := by
    rw [hR]
    rfl
  rw [hheard, Inventory.find?_apply, show x.after.records.inventory = r' by rw [hR]; rfl, hr']
  by_cases ha : a = n.address
  · rw [if_pos ha, if_pos ha]
    refine .known ?_
    rintro (⟨hs, -⟩ | ⟨hq, -⟩)
    · exact hn hs
    · exact hq ⟨n, ha.symm, hchanges⟩
  · rw [if_neg ha, if_neg ha]
    refine hk.congr ⟨fun hm => ?_, fun hm => .inr ⟨?_, hm⟩⟩
    · rcases hm with ⟨hs, -⟩ | ⟨-, hm⟩
      · exact (hn hs).elim
      · exact hm
    · rintro ⟨m, hm, he⟩
      rw [hchanges] at he
      rw [(List.cons.inj he).1] at ha
      exact ha hm.symm

/-- **`Tracked.turn`** — what one has heard of an address keeps up with every turn, unless the turn
mutes it. -/
theorem Tracked.turn {d e : Census} {t : Turn} (ht : d.take t = some e) (hd : d.inventory.IsSound)
    (hk : Tracked (Muted a h) ((d.records.heard r).find? a) (d.inventory.find? a)) :
    Tracked (Muted a (⟨d, t, e⟩ :: h)) ((e.records.heard r).find? a) (e.inventory.find? a) := by
  show Tracked _ _ (e.records.inventory.find? a)
  let x : Deed := ⟨d, t, e⟩
  have hw := Census.take_writes ht
  generalize hR : e.records = R at hw
  -- `x` has to be folded again in each case, where the turn is known.
  have hsame : ¬ x.setsOut → R.changes = d.records.changes → R.inventory = d.inventory →
      Tracked (Muted a (x :: h)) ((e.records.heard r).find? a) (e.records.inventory.find? a) :=
    fun hn hc hi => Tracked.same (x := x) hk hn (hR ▸ hc) (hR ▸ hi)
  have hchange : ∀ {n : DeviceNotice} {r' : Inventory}, ¬ x.setsOut → R = d.records.change n r' →
      (∀ b, r'.find? b = if b = n.address then n.record? else d.inventory.find? b) →
      Tracked (Muted a (x :: h)) ((e.records.heard r).find? a) (e.records.inventory.find? a) :=
    fun hn hc hr' => Tracked.change (x := x) hk hn (hR.trans hc) hr'
  rw [← hR]
  cases hw with
  | nothing hn =>
      refine hsame (Deed.not_setsOut_of_turn fun id names he => ?_) rfl rfl
      rw [show t = .list id (.ok names) from he] at hn
      cases hn
  | removeUnknown | turnAway | embark | dispatch | hold | complete | missUnknown | fail =>
      exact hsame (Deed.not_setsOut_of_turn fun _ _ he => by cases he) rfl rfl
  | @halt id s names hs hp hor =>
      refine hsame ?_ rfl rfl
      rintro ⟨u, names', hu, -, he, hnamed, hq⟩
      obtain ⟨rfl, rfl⟩ := Turn.list.inj he
      obtain rfl := Option.some.inj (hs.symm.trans hu)
      rcases hor with hno | hne
      · exact hnamed hno
      · exact hne hq
  | @setOut id s names hs hp hn hq =>
      obtain rfl := Steering.id_of_sweep? hs
      have hx : x.setsOut := ⟨s, names, hs, hp, rfl, hn, hq⟩
      have hquiet : ¬ x.speaksOf a := by
        rintro ⟨n, -, he⟩
        rw [show x.after.records.changes = d.records.changes by rw [show x.after = e from rfl, hR]] at he
        exact List.cons_ne_self _ _ he.symm
      rw [hR]
      show Tracked _ _ (d.inventory.allOffline.find? a)
      rw [Inventory.find?_allOffline]
      refine hk.offline ⟨?_, ?_⟩
      · rintro (⟨-, hm⟩ | ⟨-, hm⟩)
        · exact .inl hm
        · exact .inr hm
      · rintro (hm | hm)
        · exact .inl ⟨hx, hm⟩
        · exact .inr ⟨hquiet, hm⟩
  | remove hb =>
      exact hchange (Deed.not_setsOut_of_turn fun _ _ he => by cases he) rfl
        (d.inventory.find?_remove _)
  | @miss id p known hp hb =>
      refine hchange (Deed.not_setsOut_of_turn fun _ _ he => by cases he) rfl fun b => ?_
      have hkey : known.address = p.address := hd.keyed _ _ hb
      have hnotice : (DeviceNotice.updated known.offline).address = p.address := hkey
      rw [Inventory.find?_offline, hb, hnotice]
      rfl
  | @meet id p f hp =>
      refine hchange (Deed.not_setsOut_of_turn fun _ _ he => by cases he) rfl fun b => ?_
      rw [Inventory.find?_absorb, Inventory.noticeOf_record?, Inventory.noticeOf_address,
        hd.merged_address]

end Turn

/-! ## What is heard of the inventory -/

namespace Census

/-- The census has just been created, with records that were saved earlier. -/
def IsRestored (c : Census) : Prop :=
  ∃ now o ds, create now o (Inventory.empty.restore ds) = .ok c

theorem IsRestored.isNew {c : Census} (h : c.IsRestored) : c.IsNew := by
  obtain ⟨now, o, ds, hc⟩ := h
  exact ⟨now, o, _, hc⟩

theorem IsRestored.eq_initial {c : Census} (h : c.IsRestored) :
    ∃ now o ds, c = initial now o (Inventory.empty.restore ds) := by
  obtain ⟨now, o, ds, hc⟩ := h
  unfold create at hc
  cases ho : o.check with
  | error x =>
      rw [ho] at hc
      cases hc
  | ok u =>
      rw [ho] at hc
      cases hc
      exact ⟨now, o, ds, rfl⟩

theorem IsRestored.isSound {c : Census} (h : c.IsRestored) : c.inventory.IsSound := by
  obtain ⟨now, o, ds, rfl⟩ := h.eq_initial
  exact Inventory.isSound_empty.restore ds

/-- The inventory stays sound. -/
theorem isSound_take {c d : Census} {t : Turn} (ht : c.take t = some d)
    (h : c.inventory.IsSound) : d.inventory.IsSound := by
  have hw := take_writes ht
  show d.records.inventory.IsSound
  generalize d.records = R at hw
  cases hw with
  | remove => exact h.remove _
  | setOut => exact h.allOffline
  | miss => exact h.offline _
  | meet => exact h.absorb _
  | _ => exact h

theorem Reaches.isSound {c d : Census} (hr : Reaches c d) (h : c.inventory.IsSound) :
    d.inventory.IsSound := by
  induction hr with
  | refl => exact h
  | step _ ht ih => exact isSound_take ht ih

theorem Story.tracked {c d : Census} {h : List Deed} (hs : Story c h d) (hc : c.IsRestored)
    (a : Address) :
    Tracked (Muted a h) ((d.records.heard c.inventory).find? a) (d.inventory.find? a) := by
  induction hs with
  | start =>
      obtain ⟨now, o, ds, rfl⟩ := hc.eq_initial
      exact .known id
  | turn hs ht ih => exact ih.turn ht (hs.run.reaches.isSound hc.isSound)

/-- **`heard_eq_iff`** — whatever has happened to a census since it was created, the announced changes
of devices describe its inventory exactly if no device has been muted and not been spoken of since. -/
theorem heard_eq_iff {c d : Census} {h : List Deed} (hc : c.IsRestored) (hs : Story c h d) :
    d.records.heard c.inventory = d.inventory ↔ ∀ a, ¬ Muted a h := by
  constructor
  · intro he a
    rw [← (hs.tracked hc a).eq_iff, he]
  · intro hm
    have hsound := hs.run.reaches.isSound hc.isSound
    exact (hc.isSound.follow _).ext hsound fun a => (hs.tracked hc a).eq_iff.mpr (hm a)

/-- A small census that knows a single device, which was online when its record was saved. -/
def smallWith (a : Address) : Census :=
  initial ⟨0, 0⟩ (smallOptions false) (Inventory.empty.restore [Device.answering a ⟨0, 0⟩ .zero])

theorem smallWith_isRestored (a : Address) : (smallWith a).IsRestored :=
  ⟨⟨0, 0⟩, smallOptions false, _, rfl⟩

/-- A device within the range of the sweep does not answer, and its probe says so. -/
theorem small_heard_eq_iff :
    ∃ h d, Story (smallWith ⟨192, 168, 1, 1⟩) h d ∧ d.AtRest ∧
      d.inventory ≠ (smallWith ⟨192, 168, 1, 1⟩).inventory ∧ (∀ a, ¬ Muted a h) ∧
      (d.records.heard (smallWith ⟨192, 168, 1, 1⟩).inventory = d.inventory ↔
        ∀ a, ¬ Muted a h) := by
  have hd : ((smallWith ⟨192, 168, 1, 1⟩).replay
      ([.requestSweep, .embark 0] ++ smallSweep 0 1)).any
      (fun d => decide (d.AtRest ∧ d.inventory ≠ (smallWith ⟨192, 168, 1, 1⟩).inventory ∧
        d.records.heard (smallWith ⟨192, 168, 1, 1⟩).inventory = d.inventory)) = true := by
    decide +kernel
  obtain ⟨d, hd, hp⟩ := (Option.any_eq_true _ _).mp hd
  obtain ⟨hrest, hchanged, hheard⟩ := of_decide_eq_true hp
  have hs := story_of_replay hd
  have hiff := heard_eq_iff (smallWith_isRestored _) hs
  exact ⟨_, d, hs, hrest, hchanged, hiff.mp hheard, hiff⟩

/-- **`offline_unheard`** — a device outside the range of the sweep is offline after it, and nobody
has been told. -/
theorem offline_unheard :
    ∃ d, (smallWith ⟨10, 0, 0, 9⟩).replay ([.requestSweep, .embark 0] ++ smallSweep 0 1) = some d ∧
      d.AtRest ∧ d.records.heard (smallWith ⟨10, 0, 0, 9⟩).inventory ≠ d.inventory := by
  have hd : ((smallWith ⟨10, 0, 0, 9⟩).replay ([.requestSweep, .embark 0] ++ smallSweep 0 1)).any
      (fun d => decide (d.AtRest ∧
        d.records.heard (smallWith ⟨10, 0, 0, 9⟩).inventory ≠ d.inventory)) = true := by
    decide +kernel
  obtain ⟨d, hd, hp⟩ := (Option.any_eq_true _ _).mp hd
  exact ⟨d, hd, of_decide_eq_true hp⟩

end Census

end LanCensus
