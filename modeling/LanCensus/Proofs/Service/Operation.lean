/-
# LanCensus.Proofs.Service.Operation -- what one step of an office can do

`Acts` says in one place all that can happen while an office is at work, each case with the condition under
which it happens, and `acts_of_step` is its proof. What is shown of savings goes by cases on it.

A log remembers each step with the operation before and after it. From a log one reads which writes were
begun and which took effect, each by its number and what it writes (`lastBegun`, `lastLanded`).
-/

import LanCensus.Proofs.Census.Completion
import LanCensus.Service.Operation

namespace LanCensus.Service

/-! ## All that can happen -/

namespace Operation

/-- **`Acts o x p`** — when `x` happens, the operation `o` can become `p`. -/
inductive Acts (o : Operation) : Happening → Operation → Prop
  | turn {t : Turn} {e : Census} : attends t = false → o.census.take t = some e →
      Acts o (.turn t) (o.hear e)
  -- A lookup ends.
  | answer {id : Nat} {l : Lookup} {out : Outcome} {d : Device} : o.census.lookup? id = some l →
      Census.Lookup.result l o.census.now out = some d →
      Acts o (.answer id out)
        (((o.hear (o.census.endLookup l out)).note lastProbedName d.address.text).beginSettings none)
  | giveUp {id : Nat} {l : Lookup} {out : Outcome} : o.census.lookup? id = some l →
      Acts o (.answer id out) (o.hear (o.census.endLookup l out))
  -- Something is to be removed or saved.
  | remove {a : Address} {d : Device} : o.census.inventory.find? a = some d →
      Acts o (.remove a) ((o.hear (o.census.remove a)).beginSave none)
  | removeUnknown {a : Address} : o.census.inventory.find? a = none → Acts o (.remove a) o
  | save : Acts o .save (o.beginSave none)
  -- A notice is received.
  | heed {k : Channel} {t : Instant} {ns : List Notice} : o.attending = false →
      Acts o (.receive k)
        ((({ o with waiting := ns } : Operation).note lastSweepName t.textToSecond).beginSave
          (some (.schedule (.sweepCompleted t))))
  | pass {k : Channel} {n : Notice} {ns : List Notice} : o.attending = false →
      (∀ t, n ≠ .schedule (.sweepCompleted t)) → (∀ m ∈ o.waiting, m = n ∨ m ∈ ns) →
      Acts o (.receive k) { o with waiting := ns, desk := o.desk.pass n }
  -- A write takes effect, and its saving goes on.
  | land {s : Saving} : o.saving? s.id = some s → s.standing = .begun → Acts o (.land s.id) (o.land s)
  | follow {s : Saving} {ds : List Device} : o.saving? s.id = some s → s.standing = .done →
      s.writing = .devices ds →
      Acts o (.goOn s.id) ((o.drop s).beginSettings s.notice)
  | finish {s : Saving} : o.saving? s.id = some s →
      (s.standing = .done ∧ ∃ m, s.writing = .settings m) ∨ (∃ e, s.standing = .failed e) →
      Acts o (.goOn s.id) (o.conclude s)

/-- What has just been announced has not been heard. -/
theorem mem_unheard {n : Notice} {ns later before : List Notice} (h : ns = later ++ n :: before) :
    n ∈ unheard before.length ns := by
  have hcount : ns.length - before.length = later.length + 1 := by
    simp [h]
    omega
  rw [unheard, hcount, h, List.mem_reverse, List.take_length_add_append]
  exact List.mem_append_right _ List.mem_cons_self

/-- An item that is taken out is the only one that does not stay. -/
theorem mem_eraseP_or {α : Type} {p : α → Bool} {l : List α} {x : α} (hx : l.find? p = some x) :
    ∀ y ∈ l, y = x ∨ y ∈ l.eraseP p := by
  obtain ⟨hpx, before, after, rfl, hbefore⟩ := List.find?_eq_some_iff_append.mp hx
  have hnot : ∀ z ∈ before, ¬ p z = true := fun z hz => by simpa using hbefore z hz
  intro y hy
  rw [List.eraseP_append_right _ hnot, List.eraseP_cons_of_pos hpx]
  rcases List.mem_append.mp hy with hy | hy
  · exact .inr (List.mem_append_left _ hy)
  · exact (List.mem_cons.mp hy).imp_right (List.mem_append_right _)

variable {o p : Operation} {x : Happening}

theorem id_of_saving? {id : Nat} {s : Saving} (h : o.saving? id = some s) : s.id = id :=
  beq_iff_eq.mp (List.find?_some (p := fun s : Saving => s.id == id) h)

theorem acts_of_receive {k : Channel} {n : Notice} (hattending : o.attending = false)
    (hn : o.waiting.find? (Channel.of · = k) = some n) :
    Acts o (.receive k)
      (({ o with waiting := o.waiting.eraseP (Channel.of · = k) } : Operation).receive n) := by
  have hmem := mem_eraseP_or hn
  cases n with
  | schedule n =>
      cases n with
      | sweepCompleted t => exact .heed hattending
      | _ => exact .pass hattending (fun t => nofun) hmem
  | _ => exact .pass hattending (fun t => nofun) hmem

theorem acts_of_goOn {s : Saving} (hs : o.saving? s.id = some s) (hdone : s.standing = .done) :
    Acts o (.goOn s.id) (o.goOn s) := by
  unfold goOn
  cases hw : s.writing with
  | devices ds => exact .follow hs hdone hw
  | settings m => exact .finish hs (.inl ⟨hdone, m, hw⟩)

/-- A write that takes effect changes the desk, and its saving knows the result. -/
theorem land_eq (o : Operation) (s : Saving) :
    o.land s = ({ o with desk := (o.desk.write s.writing).1 } : Operation).put
      { s with standing := .of (o.desk.write s.writing).2 } := rfl

/-- **`acts_of_step`** — every step is one of these. -/
theorem acts_of_step (h : o.step x = some p) : Acts o x p := by
  cases x with
  | turn t =>
      simp only [step] at h
      split at h
      · cases h
      · next hno =>
        obtain ⟨e, he, rfl⟩ := Option.map_eq_some_iff.mp h
        exact .turn (Bool.eq_false_iff.mpr hno) he
  | answer id out =>
      obtain ⟨l, hl, rfl⟩ := Option.map_eq_some_iff.mp h
      unfold answer
      cases hd : Census.Lookup.result l o.census.now out with
      | none => exact .giveUp hl
      | some d => exact .answer hl hd
  | remove a =>
      cases h
      unfold remove
      cases hd : o.census.inventory.find? a with
      | none => exact .removeUnknown hd
      | some d => exact .remove hd
  | save =>
      cases h
      exact .save
  | receive k =>
      simp only [step] at h
      split at h
      · cases h
      · next hno =>
        obtain ⟨n, hn, rfl⟩ := Option.map_eq_some_iff.mp h
        exact acts_of_receive (Bool.eq_false_iff.mpr hno) hn
  | land id =>
      obtain ⟨s, hs, hland⟩ := Option.bind_eq_some_iff.mp h
      obtain rfl := id_of_saving? hs
      split at hland <;> cases hland
      exact .land hs ‹_›
  | goOn id =>
      obtain ⟨s, hs, hgoOn⟩ := Option.bind_eq_some_iff.mp h
      obtain rfl := id_of_saving? hs
      split at hgoOn <;> cases hgoOn
      · exact acts_of_goOn hs ‹_›
      · next e he => exact .finish hs (.inr ⟨e, he⟩)

/-! ## The numbers of savings -/

/-- **`IsNumbered o`** — the savings have different numbers, and none has the number that is fresh. -/
structure IsNumbered (o : Operation) : Prop where
  below : ∀ s ∈ o.savings, s.id < o.fresh
  distinct : (o.savings.map Saving.id).Nodup

namespace IsNumbered

variable {s u : Saving}

theorem eq_of_id (h : o.IsNumbered) (hs : s ∈ o.savings) (hu : u ∈ o.savings) (he : s.id = u.id) :
    s = u :=
  List.inj_on_of_nodup_map h.distinct hs hu he

theorem congr (h : o.IsNumbered) (hs : p.savings = o.savings) (hf : p.fresh = o.fresh) :
    p.IsNumbered :=
  ⟨hs ▸ hf ▸ h.below, hs ▸ h.distinct⟩

/-- A new saving takes the number that is fresh. -/
theorem beginWrite (h : o.IsNumbered) (w : Writing) (notice : Option Notice) :
    (o.beginWrite w notice).IsNumbered where
  below s hs := by
    rcases List.mem_cons.mp hs with rfl | hs
    · exact Nat.lt_succ_self _
    · exact Nat.lt_succ_of_lt (h.below s hs)
  distinct := by
    refine List.nodup_cons.mpr ⟨fun hmem => ?_, h.distinct⟩
    obtain ⟨s, hs, he⟩ := List.mem_map.mp hmem
    exact Nat.ne_of_lt (h.below s hs) he

theorem drop (h : o.IsNumbered) (s : Saving) : (o.drop s).IsNumbered where
  below u hu := h.below u (List.mem_of_mem_filter hu)
  distinct := h.distinct.sublist (List.filter_sublist.map _)

theorem put (h : o.IsNumbered) (s : Saving) : (o.put s).IsNumbered := by
  have hid : ∀ u : Saving, (if u.id = s.id then s else u).id = u.id := by
    intro u
    split
    · next he => exact he.symm
    · rfl
  refine ⟨fun v hv => ?_, ?_⟩
  · obtain ⟨u, hu, rfl⟩ := List.mem_map.mp hv
    rw [hid]
    exact h.below u hu
  · show ((o.savings.map fun u => if u.id = s.id then s else u).map Saving.id).Nodup
    rw [List.map_map, show Saving.id ∘ (fun u => if u.id = s.id then s else u) = Saving.id from
      funext hid]
    exact h.distinct

theorem acts (h : o.IsNumbered) (hacts : Acts o x p) : p.IsNumbered := by
  cases hacts with
  | turn | giveUp | removeUnknown | pass => exact h.congr rfl rfl
  | answer | remove | save | heed => exact beginWrite (h.congr (by rfl) (by rfl)) _ _
  | land =>
      rw [land_eq]
      exact put (h.congr (by rfl) (by rfl)) _
  | follow => exact beginWrite (h.drop _) _ _
  | finish => exact (h.drop _).congr rfl rfl

end IsNumbered

end Operation

/-! ## Logs -/

/-- **`Entry`** — something that has happened, with the operation before and after it. -/
structure Entry where
  before : Operation
  happening : Happening
  after : Operation

/-- **`Log o h p`** — the entries of `h`, the latest in front, lead from `o` to `p`. -/
inductive Log (o : Operation) : List Entry → Operation → Prop
  | start : Log o [] o
  | entry {h : List Entry} {p q : Operation} {x : Happening} :
      Log o h p → p.step x = some q → Log o (⟨p, x, q⟩ :: h) q

namespace Entry

/-- The saving whose write was begun. -/
def begun? (x : Entry) : Option Saving := x.after.saving? x.before.fresh

/-- The saving whose write has taken effect. -/
def landed? (x : Entry) : Option Saving :=
  match x.happening with
  | .land id => x.before.saving? id
  | _ => none

end Entry

namespace Operation

/-- **`replay o xs`** — the operation after what happens one by one, the first in front, unless something
cannot happen. -/
def replay (o : Operation) (xs : List Happening) : Option Operation := xs.foldlM step o

/-- The log of what happens one by one. -/
def record (o : Operation) : List Happening → List Entry
  | [] => []
  | x :: xs =>
    match o.step x with
    | some p => p.record xs ++ [⟨o, x, p⟩]
    | none => []

end Operation

theorem Log.append {o p q : Operation} {h k : List Entry} (hlog : Log o h p) (hk : Log p k q) :
    Log o (k ++ h) q := by
  induction hk with
  | start => exact hlog
  | entry _ hstep ih => exact ih.entry hstep

theorem log_of_replay {o p : Operation} {xs : List Happening} (h : o.replay xs = some p) :
    Log o (o.record xs) p := by
  induction xs generalizing o with
  | nil =>
      cases h
      exact .start
  | cons x xs ih =>
      obtain ⟨q, hq, hrest⟩ := Option.bind_eq_some_iff.mp h
      simp only [Operation.record, hq]
      exact (Log.start.entry hq).append (ih hrest)

/-- A log is a run of the census. -/
theorem Log.reaches {o p : Operation} {h : List Entry} (hlog : Log o h p) :
    o.census.Reaches p.census := by
  induction hlog with
  | start => exact .refl
  | @entry h p q x _ hstep ih =>
      cases Operation.acts_of_step hstep with
      | turn _ ht => exact .step ih ht
      | answer hl | giveUp hl =>
          exact .step (t := .endLookup _ _) ih (Option.map_eq_some_iff.mpr ⟨_, hl, rfl⟩)
      | remove => exact .step (t := .remove _) ih rfl
      | _ => exact ih

theorem Log.isNumbered {o p : Operation} {h : List Entry} (hlog : Log o h p) (ho : o.savings = []) :
    p.IsNumbered := by
  induction hlog with
  | start => exact ⟨by simp [ho], by simp [ho]⟩
  | entry _ hstep ih => exact ih.acts (Operation.acts_of_step hstep)

/-! ## Writes by number -/

/-- The devices that are written. -/
def Writing.devices? : Writing → Option (List Device)
  | .devices ds => some ds
  | .settings _ => none

/-- The settings that are written. -/
def Writing.settings? : Writing → Option Settings
  | .devices _ => none
  | .settings m => some m

section Writes

variable {α : Type} (f : Writing → Option α)

/-- What a saving writes, and its number, if it is what `f` asks for. -/
def Saving.content? (s : Saving) : Option (Nat × α) := (f s.writing).map (s.id, ·)

/-- What was begun to be written. -/
def Entry.begins? (x : Entry) : Option (Nat × α) := x.begun?.bind (Saving.content? f)

/-- What took effect. -/
def Entry.lands? (x : Entry) : Option (Nat × α) := x.landed?.bind (Saving.content? f)

/-- **`lastBegun f h`** — the write that was begun last of those that `f` asks for. -/
def lastBegun (h : List Entry) : Option (Nat × α) := h.findSome? (Entry.begins? f)

/-- **`lastLanded f h`** — the write that took effect last of those that `f` asks for. -/
def lastLanded (h : List Entry) : Option (Nat × α) := h.findSome? (Entry.lands? f)

variable {f} {x : Entry} {h : List Entry}

theorem lastBegun_cons_of_none (hx : x.begins? f = none) : lastBegun f (x :: h) = lastBegun f h := by
  rw [lastBegun, List.findSome?_cons, hx]
  rfl

theorem lastBegun_cons_of_some {c : Nat × α} (hx : x.begins? f = some c) :
    lastBegun f (x :: h) = some c := by
  rw [lastBegun, List.findSome?_cons, hx]

theorem lastLanded_cons_of_none (hx : x.lands? f = none) :
    lastLanded f (x :: h) = lastLanded f h := by
  rw [lastLanded, List.findSome?_cons, hx]
  rfl

theorem lastLanded_cons_of_some {c : Nat × α} (hx : x.lands? f = some c) :
    lastLanded f (x :: h) = some c := by
  rw [lastLanded, List.findSome?_cons, hx]

end Writes

/-! ## What is begun -/

namespace Entry

variable {α : Type} {f : Writing → Option α} {o p : Operation} {x : Happening} {w : Writing}
  {notice : Option Notice}

/-- A write that is begun has the number that was fresh. -/
theorem begins?_beginWrite (hp : p.fresh = o.fresh) :
    begins? f ⟨o, x, p.beginWrite w notice⟩ = (f w).map (o.fresh, ·) := by
  have hbegun : begun? ⟨o, x, p.beginWrite w notice⟩ = some ⟨o.fresh, w, .begun, notice⟩ := by
    show List.find? (·.id == o.fresh) (⟨p.fresh, w, .begun, notice⟩ :: p.savings) = _
    rw [hp]
    exact List.find?_cons_of_pos (beq_self_eq_true o.fresh)
  rw [begins?, hbegun]
  rfl

/-- Without a new number nothing is begun. -/
theorem begins?_eq_none (h : p.IsNumbered) (hp : p.fresh = o.fresh) :
    begins? f ⟨o, x, p⟩ = none := by
  have hbegun : begun? ⟨o, x, p⟩ = none := by
    refine List.find?_eq_none.mpr fun s hs => ?_
    have hlt := h.below s hs
    rw [beq_iff_eq]
    show s.id ≠ o.fresh
    omega
  rw [begins?, hbegun]
  rfl

end Entry

end LanCensus.Service
