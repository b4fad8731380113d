/-
# LanCensus.Proofs.Service.Rest -- what is stored when nothing is left to do

Two things decide what a store in files holds when an office has come to rest. The file of the devices holds
the list whose write took effect last, whatever came before (`Log.stored`). And the list whose write was
begun last is the inventory: whoever changes it saves it, or announces that somebody has to, unless a sweep
fails as it sets out (`Log.abreast`). The same is true of the settings, which no sweep can fail to save.

So at rest the store is not behind, if the write that was begun last also took effect last and no sweep has
failed since (`stored_at_rest`). Neither goes without saying. After a sweep that fails as it sets out nothing
saves what it did to the inventory (`overload_unsaved`). And nothing in an office sees to the order of two
writes that are under way at once: `removed_device_returns` is a run at whose end a device that was removed
is stored again.
-/

import LanCensus.Proofs.Archive.Store
import LanCensus.Proofs.Service.Operation
import LanCensus.Service.Program

namespace LanCensus.Service

/-! ## Writes of a working store -/

/-- What is written can be read again. -/
def Writing.IsReadable : Writing → Prop
  | .devices ds => ∀ d ∈ ds, d.lastSeen.IsWritable
  | .settings m => m.IsOrdered

/-- **`w.Changes s t`** — the store `t` holds what `w` writes, and besides what the store `s` holds. -/
structure Writing.Changes (w : Writing) (s t : Archive.Store) : Prop where
  devices : t.readDevices = w.devices?.elim s.readDevices fun ds => .ok (ds.map Device.stored)
  settings : t.readSettings = w.settings?.elim s.readSettings .ok

/-- **`write_of_isWorking`** — on a working store a write succeeds, and changes what it says. -/
theorem Desk.write_of_isWorking {d : Desk} (hbroken : d.broken = []) (hstore : d.store.IsWorking)
    {w : Writing} (hw : w.IsReadable) :
    ∃ t, d.write w = ({ d with saves := d.saves + 1, store := t }, .ok ()) ∧ t.IsWorking ∧
      w.Changes d.store t := by
  cases w with
  | devices ds =>
      obtain ⟨t, hwrite, ht, hread, hother⟩ := Archive.Store.writeDevices_of_isWorking hstore ds
      refine ⟨t, ?_, ht, hread hw, hother⟩
      simp only [write, hbroken, List.not_mem_nil, if_false, hwrite]
  | settings m =>
      obtain ⟨t, hwrite, ht, hread, hother⟩ := Archive.Store.writeSettings_of_isWorking hstore m
      refine ⟨t, ?_, ht, hother, hread hw⟩
      simp only [write, hbroken, List.not_mem_nil, if_false, hwrite]

/-! ## Offices over a working store -/

namespace Operation

variable {o p : Operation} {x : Happening} {h : List Entry}

/-- **`IsOpened o`** — the office has just been opened over a store that works. -/
def IsOpened (o : Operation) : Prop :=
  ∃ (now : Instant) (options : Sweep.Options) (store : Archive.Store) (census : Census),
    store.IsWorking ∧
    Census.create now options (Inventory.empty.restore (Desk.savedDevices store [])) = .ok census ∧
    o = opened ⟨census, Desk.openWith store []⟩

/-- A service that gets ready over files that work begins so. -/
theorem isOpened_of_openService {c : Configuration} {interfaces : List Interface} {files : Archive.Files}
    {now : Instant} {ready : Opened} (hready : c.openService interfaces files now = .ok ready)
    (hstore : (c.store files).IsWorking) : (opened ready.office).IsOpened := by
  unfold Configuration.openService at hready
  obtain ⟨names, -, hready⟩ := Json.bind_eq_ok hready
  obtain ⟨census, hcensus, hready⟩ := Json.bind_eq_ok hready
  cases hready
  cases hcreate :
      Census.create now c.sweep (Inventory.empty.restore (Desk.savedDevices (c.store files) [])) with
  | error e =>
      rw [hcreate] at hcensus
      cases hcensus
  | ok b =>
      rw [hcreate] at hcensus
      cases hcensus
      exact ⟨now, c.sweep, c.store files, _, hstore, hcreate, rfl⟩

/-- **`IsSound o`** — whatever the office writes can be read again, and no write has failed. -/
structure IsSound (o : Operation) : Prop where
  broken : o.desk.broken = []
  store : o.desk.store.IsWorking
  seen : o.census.inventory.SeenAt Instant.IsWritable
  ordered : o.desk.settings.IsOrdered
  readable : ∀ s ∈ o.savings, s.writing.IsReadable
  standing : ∀ s ∈ o.savings, ∀ e, s.standing ≠ .failed e

/-- Records are taken in as they were saved. -/
theorem seenAt_restore {P : Instant → Prop} {ds : List Device} (hds : ∀ d ∈ ds, P d.lastSeen)
    {r : Inventory} (hr : r.SeenAt P) : (r.restore ds).SeenAt P := by
  unfold Inventory.restore
  induction ds generalizing r with
  | nil => exact hr
  | cons d ds ih =>
      obtain ⟨hd, hds⟩ := List.forall_mem_cons.mp hds
      refine ih hds ?_
      unfold Inventory.restoreOne
      split
      · split
        · exact hr
        · exact hr.insert hd
      · exact hr.insert hd

theorem IsOpened.isSound (ho : o.IsOpened) : o.IsSound := by
  obtain ⟨now, options, store, census, hstore, hcreate, rfl⟩ := ho
  have hinventory : census.inventory = Inventory.empty.restore (Desk.savedDevices store []) := by
    obtain ⟨-, -, h⟩ := Json.bind_eq_ok hcreate
    cases h
    rfl
  refine ⟨rfl, hstore, ?_, ?_, List.forall_mem_nil _, List.forall_mem_nil _⟩
  · show census.inventory.SeenAt _
    rw [hinventory]
    refine seenAt_restore (fun d hd => ?_) fun _ hd => nomatch hd
    unfold Desk.savedDevices at hd
    rw [if_neg List.not_mem_nil] at hd
    cases hread : store.readDevices with
    | error e =>
        rw [hread] at hd
        cases hd
    | ok ds =>
        rw [hread] at hd
        exact Archive.Store.isWritable_of_readDevices hstore hread d hd
  · show (Desk.savedSettings store []).IsOrdered
    unfold Desk.savedSettings
    rw [if_neg List.not_mem_nil]
    cases hread : store.readSettings with
    | error e => exact Settings.isOrdered_empty
    | ok m => exact Archive.Store.isOrdered_of_readSettings hstore hread

namespace IsSound

/-- The census goes on, and dates its records by the clock. -/
theorem hear (ho : o.IsSound) {c : Census} (hc : c.inventory.SeenAt Instant.IsWritable) :
    (o.hear c).IsSound :=
  ⟨ho.broken, ho.store, hc, ho.ordered, ho.readable, ho.standing⟩

theorem wait (ho : o.IsSound) (ns : List Notice) : IsSound { o with waiting := ns } :=
  ⟨ho.broken, ho.store, ho.seen, ho.ordered, ho.readable, ho.standing⟩

theorem note (ho : o.IsSound) (name text : String) : (o.note name text).IsSound :=
  ⟨ho.broken, ho.store, ho.seen, ho.ordered.set name text, ho.readable, ho.standing⟩

theorem beginWrite (ho : o.IsSound) {w : Writing} (hw : w.IsReadable) (notice : Option Notice) :
    (o.beginWrite w notice).IsSound :=
  ⟨ho.broken, ho.store, ho.seen, ho.ordered, List.forall_mem_cons.mpr ⟨hw, ho.readable⟩,
    List.forall_mem_cons.mpr ⟨fun _ => nofun, ho.standing⟩⟩

theorem beginSave (ho : o.IsSound) (notice : Option Notice) : (o.beginSave notice).IsSound :=
  ho.beginWrite (w := .devices _) ho.seen notice

theorem beginSettings (ho : o.IsSound) (notice : Option Notice) : (o.beginSettings notice).IsSound :=
  ho.beginWrite (w := .settings _) ho.ordered notice

theorem drop (ho : o.IsSound) (s : Saving) : (o.drop s).IsSound :=
  ⟨ho.broken, ho.store, ho.seen, ho.ordered, fun u hu => ho.readable u (List.mem_of_mem_filter hu),
    fun u hu => ho.standing u (List.mem_of_mem_filter hu)⟩

theorem conclude (ho : o.IsSound) (s : Saving) : (o.conclude s).IsSound := by
  have hdrop := ho.drop s
  unfold Operation.conclude
  cases s.notice <;>
    exact ⟨ho.broken, ho.store, ho.seen, ho.ordered, hdrop.readable, hdrop.standing⟩

/-- A write that takes effect succeeds, and changes what it says. -/
theorem land (ho : o.IsSound) {s : Saving} (hs : o.saving? s.id = some s) :
    (o.land s).IsSound ∧ s.writing.Changes o.desk.store (o.land s).desk.store := by
  have hmem : s ∈ o.savings := List.mem_of_find?_eq_some hs
  obtain ⟨t, hwrite, ht, hchanges⟩ := Desk.write_of_isWorking ho.broken ho.store (ho.readable s hmem)
  rw [land_eq, hwrite]
  refine ⟨⟨ho.broken, ht, ho.seen, ho.ordered, fun v hv => ?_, fun v hv => ?_⟩, hchanges⟩
  · obtain ⟨u, hu, rfl⟩ := List.mem_map.mp hv
    split
    · exact ho.readable s hmem
    · exact ho.readable u hu
  · obtain ⟨u, hu, rfl⟩ := List.mem_map.mp hv
    split
    · exact fun _ => nofun
    · exact ho.standing u hu

theorem acts (ho : o.IsSound) (hnow : o.census.now.IsWritable) (hacts : Acts o x p) : p.IsSound := by
  have hlookup : ∀ (l : Lookup) (out : Outcome),
      (o.census.endLookup l out).inventory.SeenAt Instant.IsWritable := fun l out => by
    show (o.census.endLookup l out).records.inventory.SeenAt _
    rw [Census.records_endLookup]
    exact ho.seen
  cases hacts with
  | turn _ ht => exact ho.hear (Census.seenAt_of_take ht ho.seen hnow)
  | answer => exact ((ho.hear (hlookup _ _)).note _ _).beginSettings _
  | giveUp => exact ho.hear (hlookup _ _)
  | remove => exact (ho.hear (Census.seenAt_of_take (t := .remove _) rfl ho.seen hnow)).beginSave _
  | removeUnknown => exact ho
  | save => exact ho.beginSave _
  | @heed _ t ns => exact (note (o := { o with waiting := ns }) (ho.wait ns) _ _).beginSave _
  | pass => exact ⟨ho.broken, ho.store, ho.seen, ho.ordered, ho.readable, ho.standing⟩
  | land hs => exact (ho.land hs).1
  | follow => exact (ho.drop _).beginSettings _
  | finish => exact ho.conclude _

end IsSound

end Operation

/-! ## What is stored -/

/-- **`HasStored s h t`** — the store `t` holds what took effect last in the history `h`, and what the
store `s` held where nothing did. -/
structure HasStored (s : Archive.Store) (h : List Entry) (t : Archive.Store) : Prop where
  devices : t.readDevices =
    (lastLanded Writing.devices? h).elim s.readDevices fun c => .ok (c.2.map Device.stored)
  settings : t.readSettings = (lastLanded Writing.settings? h).elim s.readSettings fun c => .ok c.2

section Stored

open Operation

variable {o p q : Operation} {x : Happening} {h : List Entry} {s : Archive.Store}

/-- Nothing takes effect. -/
theorem HasStored.keep (hs : HasStored s h p.desk.store)
    (hx : ∀ {α : Type} (f : Writing → Option α), Entry.lands? f ⟨p, x, q⟩ = none)
    (hstore : q.desk.store = p.desk.store) : HasStored s (⟨p, x, q⟩ :: h) q.desk.store := by
  rw [hstore]
  refine ⟨?_, ?_⟩
  · rw [lastLanded_cons_of_none (hx _)]
    exact hs.devices
  · rw [lastLanded_cons_of_none (hx _)]
    exact hs.settings

/-- A write takes effect, and the other file is left alone. -/
theorem HasStored.land (hs : HasStored s h p.desk.store) {u : Saving} (hu : p.saving? u.id = some u)
    (hchanges : u.writing.Changes p.desk.store q.desk.store) :
    HasStored s (⟨p, .land u.id, q⟩ :: h) q.desk.store := by
  have hlands : ∀ {α : Type} (f : Writing → Option α),
      Entry.lands? f ⟨p, .land u.id, q⟩ = (f u.writing).map (u.id, ·) := fun f => by
    show (p.saving? u.id).bind (Saving.content? f) = _
    rw [hu]
    rfl
  obtain ⟨hdevices, hsettings⟩ := hchanges
  cases hw : u.writing with
  | devices ds =>
      rw [hw] at hdevices hsettings
      refine ⟨?_, ?_⟩
      · rw [hdevices, lastLanded_cons_of_some ((hlands _).trans (by rw [hw]; rfl))]
        rfl
      · rw [hsettings, lastLanded_cons_of_none ((hlands _).trans (by rw [hw]; rfl))]
        exact hs.settings
  | settings m =>
      rw [hw] at hdevices hsettings
      refine ⟨?_, ?_⟩
      · rw [hdevices, lastLanded_cons_of_none ((hlands _).trans (by rw [hw]; rfl))]
        exact hs.devices
      · rw [hsettings, lastLanded_cons_of_some ((hlands _).trans (by rw [hw]; rfl))]
        rfl

theorem HasStored.acts (hs : HasStored s h p.desk.store) (hp : p.IsSound) (hacts : Acts p x q) :
    HasStored s (⟨p, x, q⟩ :: h) q.desk.store := by
  cases hacts with
  | land hu => exact hs.land hu (hp.land hu).2
  | finish =>
      refine hs.keep (fun _ => rfl) ?_
      unfold conclude
      cases Saving.notice _ <;> rfl
  | _ => exact hs.keep (fun _ => rfl) rfl

/-- **`Log.stored`** — a store in files holds the devices and the settings whose writes took effect last.
-/
theorem Log.stored (hlog : Log o h p) (ho : o.IsSound)
    (hclock : ∀ x ∈ h, x.before.census.now.IsWritable) :
    p.IsSound ∧ HasStored o.desk.store h p.desk.store := by
  induction hlog with
  | start => exact ⟨ho, rfl, rfl⟩
  | entry _ hstep ih =>
      obtain ⟨hnow, hclock⟩ := List.forall_mem_cons.mp hclock
      obtain ⟨hp, hs⟩ := ih hclock
      have hacts := acts_of_step hstep
      exact ⟨hp.acts hnow hacts, hs.acts hp hacts⟩

end Stored

/-! ## What is still to be saved -/

namespace Entry

/-- The inventory changes. -/
def changesInventory (x : Entry) : Prop := x.after.census.inventory ≠ x.before.census.inventory

/-- The settings change. -/
def changesSettings (x : Entry) : Prop := x.after.desk.settings ≠ x.before.desk.settings

instance (x : Entry) : Decidable x.changesInventory := inferInstanceAs (Decidable (_ ≠ _))

instance (x : Entry) : Decidable x.changesSettings := inferInstanceAs (Decidable (_ ≠ _))

/-- A sweep fails as it sets out. -/
def overloads (x : Entry) : Prop :=
  ∃ t, x.happening = .turn t ∧ Deed.overloads ⟨x.before.census, t, x.after.census⟩

/-- The inventory begins to be saved. -/
def saves (x : Entry) : Prop := ∃ c, x.begins? Writing.devices? = some c

end Entry

namespace Operation

variable {o p : Operation} {x : Happening} {h : List Entry}

/-- **`IsOwed o`** — a sweep is under way, or one that has been completed is still to be heard of. -/
def IsOwed (o : Operation) : Prop :=
  o.census.IsUnderWay ∨ ∃ t, Notice.schedule (.sweepCompleted t) ∈ o.waiting

theorem inventory_endLookup (c : Census) (l : Lookup) (out : Outcome) :
    (c.endLookup l out).inventory = c.inventory :=
  congrArg Records.inventory (Census.records_endLookup c l out)

/-- The end of a lookup has nothing to do with sweeps. -/
theorem IsOwed.endLookup {l : Lookup} {out : Outcome} (ho : o.IsOwed) :
    (o.hear (o.census.endLookup l out)).IsOwed := by
  refine ho.imp (fun hway => ?_) fun ⟨t, ht⟩ => ⟨t, List.mem_append_left _ ht⟩
  have hsweeps : (o.census.endLookup l out).sweeps = o.census.sweeps := by
    unfold Census.endLookup
    simp only
    split <;> rfl
  show ∃ s ∈ (o.census.endLookup l out).sweeps, _
  rw [hsweeps]
  exact hway

/-- **`Abreast h o`** — after the history `h` the inventory is as it was before, or as it was last begun to
be saved, or is going to be saved; or a sweep has failed as it set out and nothing was saved since. -/
inductive Abreast (h : List Entry) (o : Operation) : Prop
  | unchanged : (∀ x ∈ h, ¬ x.changesInventory) → Abreast h o
  | saved {id : Nat} : lastBegun Writing.devices? h = some (id, o.census.inventory.toList) → Abreast h o
  | owed : o.IsOwed → Abreast h o
  | wrecked : Since Entry.overloads Entry.saves h → Abreast h o

namespace Abreast

/-- Neither is the inventory changed nor does it begin to be saved. -/
theorem keep (ha : Abreast h o) (hbegins : Entry.begins? Writing.devices? ⟨o, x, p⟩ = none)
    (hinventory : p.census.inventory = o.census.inventory) (howed : o.IsOwed → p.IsOwed) :
    Abreast (⟨o, x, p⟩ :: h) p := by
  cases ha with
  | unchanged hall => exact .unchanged (List.forall_mem_cons.mpr ⟨fun hx => hx hinventory, hall⟩)
  | saved hlast => exact .saved ((lastBegun_cons_of_none hbegins).trans (hinventory ▸ hlast))
  | owed ho => exact .owed (howed ho)
  | wrecked hsince =>
      refine .wrecked (.inr ⟨?_, hsince⟩)
      rintro ⟨c, hc⟩
      cases hbegins.symm.trans hc

/-- The inventory begins to be saved as it is. -/
theorem of_beginSave (hp : p.fresh = o.fresh) (notice : Option Notice) :
    Abreast (⟨o, x, p.beginSave notice⟩ :: h) (p.beginSave notice) :=
  .saved (lastBegun_cons_of_some (Entry.begins?_beginWrite hp))

/-- The census has a turn. Whoever changes the inventory with it leaves it to be saved. -/
theorem turn (ha : Abreast h o) (hreg : o.census.IsRegular) (hnum : o.IsNumbered) {t : Turn} {e : Census}
    (hplain : attends t = false) (ht : o.census.take t = some e) :
    Abreast (⟨o, .turn t, o.hear e⟩ :: h) (o.hear e) := by
  have hbegins : Entry.begins? Writing.devices? ⟨o, .turn t, o.hear e⟩ = none :=
    Entry.begins?_eq_none (hnum.congr rfl rfl) rfl
  by_cases hway : o.census.IsUnderWay
  · refine .owed ?_
    rcases Census.isUnderWay_or_completed hreg ht hway with hway | ⟨later, hlater⟩
    · exact .inl hway
    · refine .inr ⟨o.census.now, List.mem_append_right _ ?_⟩
      exact mem_unheard hlater
  · by_cases hchange : e.inventory = o.census.inventory
    · refine ha.keep hbegins hchange fun ho => ?_
      obtain ⟨n, hn⟩ := ho.resolve_left hway
      exact .inr ⟨n, List.mem_append_left _ hn⟩
    · have hrem : t.isRemoval = false := by
        cases t with
        | remove => cases hplain
        | _ => rfl
      rcases Census.isUnderWay_of_change hreg ht hrem hway hchange with hway | hover
      · exact .owed (.inl hway)
      · exact .wrecked (.inl ⟨t, rfl, hover⟩)

theorem acts (ha : Abreast h o) (hreg : o.census.IsRegular) (hnum : o.IsNumbered) (hacts : Acts o x p) :
    Abreast (⟨o, x, p⟩ :: h) p := by
  have hnum' := hnum.acts hacts
  cases hacts with
  | turn hplain ht => exact ha.turn hreg hnum hplain ht
  | answer => exact ha.keep (Entry.begins?_beginWrite (by rfl)) (inventory_endLookup ..) IsOwed.endLookup
  | giveUp =>
      exact ha.keep (Entry.begins?_eq_none hnum' rfl) (inventory_endLookup ..) IsOwed.endLookup
  | remove | save | heed => exact of_beginSave (by rfl) _
  | removeUnknown => exact ha.keep (Entry.begins?_eq_none hnum' rfl) rfl id
  | pass _ hn hmem =>
      refine ha.keep (Entry.begins?_eq_none hnum' rfl) rfl (Or.imp_right ?_)
      rintro ⟨t, ht⟩
      exact ⟨t, (hmem _ ht).resolve_left fun he => hn t he.symm⟩
  | land => exact ha.keep (Entry.begins?_eq_none hnum' rfl) rfl id
  | follow => exact ha.keep (Entry.begins?_beginWrite (by rfl)) rfl id
  | finish => exact ha.keep (Entry.begins?_eq_none hnum' rfl) rfl id

end Abreast

/-- The inventory is being saved, so that the settings are going to be. -/
def IsSaving (o : Operation) : Prop := ∃ s ∈ o.savings, ∃ ds, s.writing = .devices ds

/-- **`Noted h o`** — after the history `h` the settings are as they were before, or as they were last begun
to be saved, or are going to be saved. -/
inductive Noted (h : List Entry) (o : Operation) : Prop
  | unchanged : (∀ x ∈ h, ¬ x.changesSettings) → Noted h o
  | saved {id : Nat} : lastBegun Writing.settings? h = some (id, o.desk.settings) → Noted h o
  | owed : o.IsSaving → Noted h o

namespace Noted

/-- Neither are the settings changed nor do they begin to be saved. -/
theorem keep (hn : Noted h o) (hbegins : Entry.begins? Writing.settings? ⟨o, x, p⟩ = none)
    (hsettings : p.desk.settings = o.desk.settings) (hsaving : o.IsSaving → p.IsSaving) :
    Noted (⟨o, x, p⟩ :: h) p := by
  cases hn with
  | unchanged hall => exact .unchanged (List.forall_mem_cons.mpr ⟨fun hx => hx hsettings, hall⟩)
  | saved hlast => exact .saved ((lastBegun_cons_of_none hbegins).trans (hsettings ▸ hlast))
  | owed ho => exact .owed (hsaving ho)

/-- The settings begin to be saved as they are. -/
theorem of_beginSettings (hp : p.fresh = o.fresh) (notice : Option Notice) :
    Noted (⟨o, x, p.beginSettings notice⟩ :: h) (p.beginSettings notice) :=
  .saved (lastBegun_cons_of_some (Entry.begins?_beginWrite hp))

/-- The inventory begins to be saved, and the settings come second. -/
theorem of_beginSave (p : Operation) (notice : Option Notice) : Noted h (p.beginSave notice) :=
  .owed ⟨_, List.mem_cons_self, _, rfl⟩

theorem acts (hn : Noted h o) (hnum : o.IsNumbered) (ho : o.IsSound) (hacts : Acts o x p) :
    Noted (⟨o, x, p⟩ :: h) p := by
  have hnum' := hnum.acts hacts
  cases hacts with
  | turn | giveUp | removeUnknown | pass =>
      exact hn.keep (Entry.begins?_eq_none hnum' rfl) rfl id
  | answer | follow => exact of_beginSettings (by rfl) _
  | remove | save | heed => exact of_beginSave _ _
  | @land s hs =>
      refine hn.keep (Entry.begins?_eq_none hnum' rfl) ?_ ?_
      · obtain ⟨t, hwrite, -, -⟩ := Desk.write_of_isWorking ho.broken ho.store
          (ho.readable s (List.mem_of_find?_eq_some hs))
        rw [land_eq, hwrite]
        rfl
      · -- What the saving writes stays what it was.
        rw [land_eq]
        generalize o.desk.write s.writing = result
        rintro ⟨u, hu, ds, hds⟩
        refine ⟨_, List.mem_map_of_mem hu, ds, ?_⟩
        split
        · next he => rw [← hds, hnum.eq_of_id hu (List.mem_of_find?_eq_some hs) he]
        · exact hds
  | @finish s hs hor =>
      refine hn.keep (Entry.begins?_eq_none hnum' rfl) ?_ ?_
      · unfold conclude
        cases s.notice <;> rfl
      · rintro ⟨u, hu, ds, hds⟩
        refine ⟨u, List.mem_filter.mpr ⟨hu, ?_⟩, ds, hds⟩
        -- A saving that ends was writing the settings.
        have hmem : s ∈ o.savings := List.mem_of_find?_eq_some hs
        obtain ⟨-, m, hm⟩ := hor.resolve_right fun ⟨e, he⟩ => ho.standing s hmem e he
        rw [decide_eq_true_iff]
        intro he
        rw [hnum.eq_of_id hu hmem he, hm] at hds
        cases hds

end Noted

/-! ## At rest -/

/-- **`IsIdle o`** — nothing is left to do: no sweep, no lookup, no saving and no notice. -/
structure IsIdle (o : Operation) : Prop where
  atRest : o.census.AtRest
  lookups : o.census.lookups = []
  waiting : o.waiting = []
  savings : o.savings = []

instance (o : Operation) : Decidable o.IsIdle :=
  decidable_of_iff (o.census.AtRest ∧ o.census.lookups = [] ∧ o.waiting = [] ∧ o.savings = [])
    ⟨fun h => ⟨h.1, h.2.1, h.2.2.1, h.2.2.2⟩, fun h => ⟨h.atRest, h.lookups, h.waiting, h.savings⟩⟩

theorem IsOpened.savings (ho : o.IsOpened) : o.savings = [] := by
  obtain ⟨_, _, _, _, -, -, rfl⟩ := ho
  rfl

theorem IsOpened.isRegular (ho : o.IsOpened) : o.census.IsRegular := by
  obtain ⟨now, options, store, census, -, hcreate, rfl⟩ := ho
  exact .of_isNew ⟨now, options, _, hcreate⟩

end Operation

section AtRest

open Operation

variable {o p : Operation} {h : List Entry}

/-- **`Log.abreast`** — whatever happens, the inventory and the settings are saved or going to be. -/
theorem Log.abreast (hlog : Log o h p) (ho : o.IsOpened)
    (hclock : ∀ x ∈ h, x.before.census.now.IsWritable) : Abreast h p ∧ Noted h p := by
  induction hlog with
  | start => exact ⟨.unchanged (List.forall_mem_nil _), .unchanged (List.forall_mem_nil _)⟩
  | entry hlog hstep ih =>
      obtain ⟨-, hclock⟩ := List.forall_mem_cons.mp hclock
      obtain ⟨ha, hn⟩ := ih hclock
      have hacts := acts_of_step hstep
      have hnum := hlog.isNumbered ho.savings
      exact ⟨ha.acts (ho.isRegular.reaches hlog.reaches) hnum hacts,
        hn.acts hnum (hlog.stored ho.isSound hclock).1 hacts⟩

/-- **`stored_at_rest`** — an office was opened over a store in files that works, and has come to rest. If its
inventory has changed, if of all lists of devices the one that was begun to be written last took effect last,
and if no sweep has failed as it set out since the inventory was last begun to be saved, then the store holds
the inventory with response times in whole milliseconds. And it holds the settings, if they have changed and
those that were begun to be written last took effect last. -/
theorem stored_at_rest (ho : o.IsOpened) (hlog : Log o h p)
    (hclock : ∀ x ∈ h, x.before.census.now.IsWritable) (hidle : p.IsIdle) :
    ((∃ x ∈ h, x.changesInventory) →
        lastLanded Writing.devices? h = lastBegun Writing.devices? h →
        ¬ Since Entry.overloads Entry.saves h →
        p.desk.store.readDevices = .ok (p.census.inventory.toList.map Device.stored)) ∧
      ((∃ x ∈ h, x.changesSettings) →
        lastLanded Writing.settings? h = lastBegun Writing.settings? h →
        p.desk.store.readSettings = .ok p.desk.settings) := by
  obtain ⟨-, hdevices, hsettings⟩ := hlog.stored ho.isSound hclock
  obtain ⟨ha, hn⟩ := hlog.abreast ho hclock
  have hreg := ho.isRegular.reaches hlog.reaches
  refine ⟨fun ⟨x, hx, hchanged⟩ horder hwrecked => ?_, fun ⟨x, hx, hchanged⟩ horder => ?_⟩
  · cases ha with
    | unchanged hall => exact absurd hchanged (hall x hx)
    | saved hlast => rw [hdevices, horder, hlast, Option.elim_some]
    | owed how =>
        rcases how with hway | ⟨t, ht⟩
        · exact absurd hway (hidle.atRest.not_isUnderWay hreg)
        · rw [hidle.waiting] at ht
          cases ht
    | wrecked hsince => exact absurd hsince hwrecked
  · cases hn with
    | unchanged hall => exact absurd hchanged (hall x hx)
    | saved hlast => rw [hsettings, horder, hlast, Option.elim_some]
    | owed how =>
        obtain ⟨s, hs, -⟩ := how
        rw [hidle.savings] at hs
        cases hs

end AtRest

/-! ## Three runs -/

/-- Two files that do not exist yet, beside one another. -/
def vacantFiles : Archive.FileStore := ⟨.empty, ⟨["devices.json"], false⟩, ⟨["settings.json"], false⟩⟩

theorem vacantFiles_isWorking : vacantFiles.IsWorking where
  devices := Archive.Files.admits_empty ⟨by decide, rfl, by decide⟩
  settings := Archive.Files.admits_empty ⟨by decide, rfl, by decide⟩
  apart := ⟨by decide, by decide, by decide⟩

/-- Options for sweeps of two addresses in each subnet. -/
def pairOptions : Sweep.Options := { Census.smallOptions false with endOctet := 2 }

/-- An office that has just been opened over files that do not exist yet. -/
def vacant : Operation :=
  .opened ⟨Census.initial ⟨0, 0⟩ pairOptions .empty, Desk.openWith (.inFiles vacantFiles) []⟩

theorem vacant_isOpened : vacant.IsOpened :=
  ⟨⟨0, 0⟩, pairOptions, .inFiles vacantFiles, _, ⟨_, rfl, vacantFiles_isWorking⟩, rfl, rfl⟩

/-- The start of 1970 can be written down. -/
theorem epoch_isWritable : Instant.IsWritable ⟨0, 0⟩ := ⟨by decide, by decide, by decide⟩

/-- A sweep finds both devices, and when it is over they are stored. -/
def pairStored : List Happening :=
  let answer : Outcome := .found ⟨.zero, none, none, none⟩
  let turns : List Turn := [.requestSweep, .embark 0, .list 0 (.ok ["192.168.1"]), .proceed 0, .ping 1,
    .endProbe 1 answer, .proceed 0, .ping 2, .endProbe 2 answer, .proceed 0, .proceed 0]
  turns.map .turn ++ [.receive .device, .receive .device, .receive .schedule, .land 0, .goOn 0, .land 1,
    .goOn 1, .receive .sweeping, .receive .progress, .receive .progress, .receive .sweeping]

/-- Without a failed sweep none has failed as it set out. -/
theorem not_wrecked {h : List Entry} (hh : ∀ x ∈ h, ∀ s ∈ x.after.census.sweeps, s.phase ≠ .crashed) :
    ¬ Since Entry.overloads Entry.saves h := by
  intro hsince
  obtain ⟨later, x, earlier, rfl, ⟨t, -, -, id, -, hcrashed⟩, -⟩ := since_iff.mp hsince
  obtain ⟨s, hs, hp⟩ := Option.map_eq_some_iff.mp hcrashed
  exact hh x (by simp) s (Steering.mem_of_sweep? hs) hp

/-- After the sweep both devices and the time of its completion are stored. -/
theorem pair_stored_at_rest :
    ∃ p, vacant.replay pairStored = some p ∧ p.IsIdle ∧
      p.desk.store.readDevices = .ok (p.census.inventory.toList.map Device.stored) ∧
      p.desk.store.readSettings = .ok p.desk.settings := by
  have hcheck : (vacant.replay pairStored).any (fun p => decide
      (p.IsIdle ∧ (∀ x ∈ vacant.record pairStored, x.before.census.now = ⟨0, 0⟩) ∧
        (∀ x ∈ vacant.record pairStored, ∀ s ∈ x.after.census.sweeps, s.phase ≠ .crashed) ∧
        (∃ x ∈ vacant.record pairStored, x.changesInventory) ∧
        (∃ x ∈ vacant.record pairStored, x.changesSettings) ∧
        lastLanded Writing.devices? (vacant.record pairStored) =
          lastBegun Writing.devices? (vacant.record pairStored) ∧
        lastLanded Writing.settings? (vacant.record pairStored) =
          lastBegun Writing.settings? (vacant.record pairStored))) = true := by
    decide +kernel
  obtain ⟨p, hp, hcheck⟩ := (Option.any_eq_true _ _).mp hcheck
  obtain ⟨hidle, hclock, hfine, hdevices, hsettings, horder, horder'⟩ := of_decide_eq_true hcheck
  have hstored := stored_at_rest vacant_isOpened (log_of_replay hp)
    (fun x hx => hclock x hx ▸ epoch_isWritable) hidle
  exact ⟨p, hp, hidle, hstored.1 hdevices horder (not_wrecked hfine), hstored.2 hsettings horder'⟩

/-- A device that is online. -/
def online : Device := .answering ⟨192, 168, 1, 1⟩ ⟨0, 0⟩ .zero

/-- A store that holds it. -/
def onlineStore : Archive.Store := ((Archive.Store.inFiles vacantFiles).writeDevices [online]).1

theorem onlineStore_isWorking : onlineStore.IsWorking ∧ onlineStore.readDevices = .ok [online] := by
  obtain ⟨t, hwrite, ht, hread, -⟩ :=
    Archive.Store.writeDevices_of_isWorking ⟨_, rfl, vacantFiles_isWorking⟩ [online]
  have hstore : onlineStore = t := congrArg Prod.fst hwrite
  rw [hstore]
  exact ⟨ht, hread (List.forall_mem_singleton.mpr epoch_isWritable)⟩

/-- An office over this store whose options allow too many probes at once. -/
def crowded : Operation := .opened ⟨Census.tooWide, Desk.openWith onlineStore []⟩

theorem crowded_isOpened : crowded.IsOpened := by
  obtain ⟨hstore, hread⟩ := onlineStore_isWorking
  refine ⟨⟨0, 0⟩, Census.tooWide.options, onlineStore, _, hstore, ?_, rfl⟩
  have hsaved : Desk.savedDevices onlineStore [] = [online] := by
    rw [Desk.savedDevices, if_neg List.not_mem_nil, hread]
    rfl
  rw [hsaved]
  rfl

/-- A sweep begins. -/
def overloaded : List Happening :=
  [.turn .requestSweep, .turn (.embark 0), .turn (.list 0 (.ok ["192.168.1"])), .receive .sweeping,
    .receive .progress]

/-- **`overload_unsaved`** — the sweep has marked the device offline and failed. At rest it is stored as it
was before, online. -/
theorem overload_unsaved :
    ∃ p, crowded.IsOpened ∧ Log crowded (crowded.record overloaded) p ∧
      (∀ x ∈ crowded.record overloaded, x.before.census.now.IsWritable) ∧ p.IsIdle ∧
      (∃ x ∈ crowded.record overloaded, x.changesInventory) ∧
      p.desk.store.readDevices = .ok [online] ∧
      p.census.inventory.toList.map Device.stored ≠ [online] := by
  have hcheck : (crowded.replay overloaded).any (fun p => decide
      (p.IsIdle ∧ (∀ x ∈ crowded.record overloaded, x.before.census.now = ⟨0, 0⟩) ∧
        (∃ x ∈ crowded.record overloaded, x.changesInventory) ∧
        lastLanded Writing.devices? (crowded.record overloaded) = none ∧
        p.census.inventory.toList.map Device.stored ≠ [online])) = true := by
    decide +kernel
  obtain ⟨p, hp, hcheck⟩ := (Option.any_eq_true _ _).mp hcheck
  obtain ⟨hidle, hclock, hchanged, hlast, hne⟩ := of_decide_eq_true hcheck
  have hnow : ∀ x ∈ crowded.record overloaded, x.before.census.now.IsWritable := fun x hx =>
    hclock x hx ▸ epoch_isWritable
  have hstored := ((log_of_replay hp).stored crowded_isOpened.isSound hnow).2.devices
  rw [hlast, Option.elim_none] at hstored
  exact ⟨p, crowded_isOpened, log_of_replay hp, hnow, hidle, hchanged,
    hstored.trans onlineStore_isWorking.2, hne⟩

/-- Both devices are removed. The second removal begins to be saved before the first is saved, and its write
takes effect first. -/
def removedBoth : List Happening :=
  pairStored ++ [.remove ⟨192, 168, 1, 1⟩, .remove ⟨192, 168, 1, 2⟩, .land 3, .goOn 3, .land 4, .goOn 4,
    .land 2, .goOn 2, .land 5, .goOn 5, .receive .device, .receive .device]

/-- **`removed_device_returns`** — at rest the inventory is empty, and the device that was removed last is
stored. -/
theorem removed_device_returns :
    ∃ p, Log vacant (vacant.record removedBoth) p ∧ p.IsIdle ∧ p.census.inventory.toList = [] ∧
      ∃ d : Device, d.address = ⟨192, 168, 1, 2⟩ ∧ p.desk.store.readDevices = .ok [d] := by
  have hcheck : (vacant.replay removedBoth).any (fun p => decide
      (p.IsIdle ∧ (∀ x ∈ vacant.record removedBoth, x.before.census.now = ⟨0, 0⟩) ∧
        p.census.inventory.toList = [] ∧
        (lastLanded Writing.devices? (vacant.record removedBoth)).any (fun c =>
          c.2.map (·.address) = [⟨192, 168, 1, 2⟩]))) = true := by
    decide +kernel
  obtain ⟨p, hp, hcheck⟩ := (Option.any_eq_true _ _).mp hcheck
  obtain ⟨hidle, hclock, hempty, hlast⟩ := of_decide_eq_true hcheck
  have hstored := ((log_of_replay hp).stored vacant_isOpened.isSound
    fun x hx => hclock x hx ▸ epoch_isWritable).2.devices
  obtain ⟨⟨id, ds⟩, hc, haddress⟩ := (Option.any_eq_true _ _).mp hlast
  obtain ⟨d, rfl, hd⟩ := List.map_eq_singleton_iff.mp (of_decide_eq_true haddress)
  rw [hc] at hstored
  exact ⟨p, log_of_replay hp, hidle, hempty, d.stored, hd, hstored⟩

end LanCensus.Service
