/-
# LanCensus.Proofs.Census.Records -- what a turn writes down

`Steering` is what leads a census; `Records` is what it leaves behind: the inventory, the number of
dispatched probes, when the last sweep was completed, and the announced changes of devices and
beginnings and ends of sweeps. Few turns write anything. `Writes` lists them, each with the condition
under which it writes, and `take_writes` is its proof; it stands beside `Moves` as the second half of
what a turn does.
-/

import LanCensus.Proofs.Census.History

namespace LanCensus

/-! ## The records of a census -/

/-- **`Records`** — what a census has written down. -/
structure Records where
  inventory : Inventory
  dispatched : Nat
  lastSweep : Option Instant
  /-- The changes of devices that were announced, the latest first. -/
  changes : List DeviceNotice
  /-- The beginnings and ends of sweeps that were announced, the latest first. -/
  signals : List Bool

/-- The records of a census. -/
def Census.records (c : Census) : Records where
  inventory := c.inventory
  dispatched := c.dispatched
  lastSweep := c.lastSweep
  changes := c.notices.filterMap Notice.device?
  signals := c.notices.filterMap Notice.sweeping?

namespace Records

/-- The beginning or the end of a sweep has been announced. -/
def signal (R : Records) (running : Bool) : Records := { R with signals := running :: R.signals }

/-- The inventory has changed to `r`, and the change has been announced. -/
def change (R : Records) (n : DeviceNotice) (r : Inventory) : Records :=
  { R with inventory := r, changes := n :: R.changes }

end Records

/-- The notice of a probe result that the inventory absorbs. -/
def Inventory.noticeOf (r : Inventory) (d : Device) : DeviceNotice :=
  if r.isNew d then .discovered (r.merged d) else .updated (r.merged d)

/-- Whether a turn may write anything down. -/
def Turn.writes : Turn → Bool
  | .remove _ | .embark _ | .list .. | .proceed _ | .endProbe .. => true
  | _ => false

/-! ## All that a turn can write -/

/-- **`Writes c t R`** — after the turn `t` the records of `c` can be `R`. -/
inductive Writes (c : Census) : Turn → Records → Prop
  | nothing {t : Turn} : t.writes = false → Writes c t c.records
  -- The owner takes a device out.
  | remove {a : Address} {d : Device} : c.inventory.find? a = some d →
      Writes c (.remove a) (c.records.change (.removed a) (c.inventory.remove a))
  | removeUnknown {a : Address} : c.inventory.find? a = none → Writes c (.remove a) c.records
  -- A sweep begins, and learns of the subnets.
  | turnAway {id : Nat} : c.sweeping = true → Writes c (.embark id) c.records
  | embark {id : Nat} : c.sweeping = false → Writes c (.embark id) (c.records.signal true)
  | halt {id : Nat} {s : Sweep} {names : Except SubnetError (List String)} :
      c.steering.sweep? id = some s → s.phase = .listing →
      NoSubnets names ∨ c.pauses ≠ s.pauses →
      Writes c (.list id names) (c.records.signal false)
  | setOut {id : Nat} {s : Sweep} {names : List String} :
      c.steering.sweep? id = some s → s.phase = .listing → Census.named names ≠ [] →
      c.pauses = s.pauses →
      Writes c (.list id (.ok names)) { c.records with inventory := c.inventory.allOffline }
  -- A sweep goes on.
  | dispatch {id : Nat} {s : Sweep} : c.steering.sweep? id = some s →
      s.phase = .ready ∨ s.phase = .waiting → s.targets ≠ [] → c.pauses = s.pauses →
      0 < s.permits → Writes c (.proceed id) { c.records with dispatched := c.dispatched + 1 }
  | hold {id : Nat} {s : Sweep} : c.steering.sweep? id = some s → s.phase ≠ .draining →
      (s.phase = .ready ∨ s.phase = .waiting →
        s.targets = [] ∨ c.pauses ≠ s.pauses ∨ s.permits = 0) →
      Writes c (.proceed id) c.records
  | complete {id : Nat} {s : Sweep} : c.steering.sweep? id = some s → s.phase = .draining →
      Writes c (.proceed id) ({ c.records with lastSweep := some c.now }.signal false)
  -- A probe ends.
  | miss {id : Nat} {p : Probe} {known : Device} : c.steering.probe? id = some p →
      c.inventory.find? p.address = some known →
      Writes c (.endProbe id .missed)
        (c.records.change (.updated known.offline) (c.inventory.offline p.address))
  | missUnknown {id : Nat} {p : Probe} : c.steering.probe? id = some p →
      c.inventory.find? p.address = none → Writes c (.endProbe id .missed) c.records
  | meet {id : Nat} {p : Probe} {f : Finding} : c.steering.probe? id = some p →
      Writes c (.endProbe id (.found f))
        (c.records.change (c.inventory.noticeOf (f.device p.address c.now))
          (c.inventory.absorb (f.device p.address c.now)))
  | fail {id : Nat} : Writes c (.endProbe id .crashed) c.records

namespace Census

variable {c e : Census}

/-! ## Operations and the records -/

@[simp] theorem records_report (c : Census) (m : String) : (c.report m).records = c.records := rfl

@[simp] theorem records_complain (c : Census) (m : String) :
    (c.complain m).records = c.records := rfl

@[simp] theorem records_setNextSweep (c : Census) (due : Option Instant) :
    (c.setNextSweep due).records = c.records := by
  unfold setNextSweep
  split <;> rfl

@[simp] theorem records_putTimer (c : Census) (t : Timer) :
    (c.putTimer t).records = c.records := rfl

@[simp] theorem records_planAhead (c : Census) : c.planAhead.records = c.records := by
  unfold planAhead
  split
  · exact records_setNextSweep ..
  · rfl

@[simp] theorem records_countDown (c : Census) : c.countDown.records = c.records := by
  unfold countDown
  split <;> rfl

@[simp] theorem records_disarm (c : Census) : c.disarm.records = c.records :=
  records_setNextSweep ..

@[simp] theorem records_complainInvalid (c : Census) (names : List String) :
    (c.complainInvalid names).records = c.records := by
  unfold complainInvalid
  induction names generalizing c with
  | nil => rfl
  | cons name names ih =>
      rw [List.foldl_cons, ih]
      cases Subnet.read name <;> rfl

theorem records_finish (c : Census) (s : Sweep) :
    (c.finish s).records = c.records.signal false := rfl

theorem records_complete (c : Census) (s : Sweep) :
    (c.complete s).records = { c.records with lastSweep := some c.now }.signal false := by
  unfold complete
  rw [records_finish, records_report]
  split
  · rw [records_setNextSweep]
    rfl
  · rfl

/-! ## Requests of the owner and the timer -/

theorem records_arm (c : Census) (m : String) : (c.arm m).records = c.records := by
  unfold arm
  split
  · rfl
  · simp only
    split
    · rw [← putTimer, records_putTimer, records_setNextSweep]
      rfl
    · rfl

theorem records_pause (c : Census) : c.pause.records = c.records := by
  unfold pause
  simp only [apply_ite records, records_report, records_disarm, ite_self]
  rfl

theorem records_setOptions (c : Census) (o : Sweep.Options) :
    ((c.setOptions o).toOption.getD c).records = c.records := by
  unfold setOptions
  cases o.check with
  | error e => rfl
  | ok u =>
      simp only [bind, Except.bind, pure, Except.pure]
      split
      · rfl
      · split
        · exact records_disarm _
        · exact records_disarm _

theorem records_beginLookup (c : Census) (text : String) :
    (c.beginLookup text).records = c.records := by
  unfold beginLookup
  split <;> rfl

theorem records_endLookup (c : Census) (l : Lookup) (o : Outcome) :
    (c.endLookup l o).records = c.records := by
  unfold endLookup
  simp only
  split <;> rfl

theorem records_ring (c : Census) (t : Timer) : (c.ring t).records = c.records := by
  unfold ring
  split
  · rfl
  · split
    · rfl
    · split
      · exact records_planAhead c
      · rfl

theorem records_timerTurn (h : c.timerTurn = some e) : e.records = c.records := by
  unfold timerTurn at h
  obtain ⟨t, -, h⟩ := Option.bind_eq_some_iff.mp h
  split at h
  · cases h
    exact records_ring c t
  · split at h <;> cases h
    rfl
  · split at h <;> cases h
    exact records_planAhead c
  · cases h

theorem records_tickTurn (h : c.tickTurn = some e) : e.records = c.records := by
  unfold tickTurn at h
  obtain ⟨t, -, h⟩ := Option.bind_eq_some_iff.mp h
  simp only at h
  split at h
  · cases h
  · split at h <;> cases h
    · rfl
    · exact records_countDown c

/-! ## Sweeps and probes -/

theorem writes_remove (a : Address) : Writes c (.remove a) (c.remove a).records := by
  unfold remove
  cases h : c.inventory.find? a with
  | none => exact .removeUnknown h
  | some d => exact .remove h

theorem writes_embark {s : Sweep} {p : Option Nat} (hp : s.phase = .queued p) :
    Writes c (.embark s.id) (c.embark s).records := by
  unfold embark
  rw [hp]
  by_cases hb : c.sweeping = true
  · simp only [hb, if_true]
    exact .turnAway hb
  · simp only [hb]
    exact .embark (Bool.eq_false_iff.mpr hb)

theorem records_setOut (c : Census) (s : Sweep) (subnets : List (String × Subnet)) :
    (c.setOut s subnets).records = { c.records with inventory := c.inventory.allOffline } := by
  unfold setOut
  simp only
  split <;> rfl

theorem writes_listed {s : Sweep} (hs : c.steering.sweep? s.id = some s)
    (hp : s.phase = .listing) (names : List String) :
    Writes c (.list s.id (.ok names)) (c.listed s names).records := by
  have hr : (c.complainInvalid names).records = c.records := records_complainInvalid c names
  have hpauses : (c.complainInvalid names).pauses = c.pauses :=
    congrArg Steering.pauses (steering_complainInvalid c names)
  unfold listed
  by_cases hn : named names = []
  · simp only [hn, List.isEmpty_nil, if_true]
    rw [abort, records_finish, records_complain, hr]
    exact .halt hs hp (.inl hn)
  · simp only [List.isEmpty_iff, hn, if_false, hpauses]
    by_cases hq : c.pauses ≠ s.pauses
    · rw [if_pos hq, records_finish, hr]
      exact .halt hs hp (.inr hq)
    · rw [if_neg hq, records_setOut, hr, show (c.complainInvalid names).inventory = c.inventory from
        congrArg Records.inventory hr]
      exact .setOut hs hp hn (not_not.mp hq)

theorem records_dispatch (c : Census) (s : Sweep) (x : Sweep.Target) (rest : List Sweep.Target) :
    (c.dispatch s x rest).records = { c.records with dispatched := c.dispatched + 1 } := by
  unfold dispatch
  simp only
  split
  · rfl
  · split
    · split <;> rfl
    · rfl

theorem writes_dispatchNext {s : Sweep} (hs : c.steering.sweep? s.id = some s)
    (hp : s.phase = .ready ∨ s.phase = .waiting)
    (hf : s.targets = [] ∨ c.pauses ≠ s.pauses ∨ 0 < s.permits) :
    Writes c (.proceed s.id) (c.dispatchNext s).records := by
  have hnot : s.phase ≠ .draining := by
    rcases hp with hp | hp <;> rw [hp] <;> simp
  unfold dispatchNext
  split
  · next hx => exact .hold hs hnot fun _ => .inl hx
  · next x rest hx =>
    have hne : s.targets ≠ [] := by
      rw [hx]
      exact List.cons_ne_nil _ _
    by_cases hq : c.pauses ≠ s.pauses
    · rw [if_pos hq]
      exact .hold hs hnot fun _ => .inr (.inl hq)
    · rw [if_neg hq, records_dispatch]
      exact .dispatch hs hp hne (not_not.mp hq) ((hf.resolve_left hne).resolve_left hq)

theorem writes_proceed {s : Sweep} (hs : c.steering.sweep? s.id = some s)
    (h : c.proceed s = some e) : Writes c (.proceed s.id) e.records := by
  unfold proceed at h
  split at h
  · next hp =>
    have hnot : s.phase ≠ .draining := by simp [hp]
    split at h
    · next hg =>
      cases h
      exact writes_dispatchNext hs (.inl hp) (by simpa [or_assoc] using hg)
    · next hg =>
      cases h
      refine .hold hs hnot fun _ => .inr (.inr ?_)
      simp only [Bool.or_eq_true, decide_eq_true_eq, not_or] at hg
      exact Nat.eq_zero_of_not_pos hg.2
  · next hp =>
    split at h
    · next hf =>
      cases h
      exact writes_dispatchNext hs (.inr hp) (.inr (.inr hf))
    · cases h
  · next w hp =>
    split at h <;> cases h
    refine .hold hs (by simp [hp]) fun hor => ?_
    simp [hp] at hor
  · next hp =>
    split at h <;> cases h
    rw [records_complete]
    exact .complete hs hp
  · cases h

theorem writes_endProbe {p : Probe} (hp : c.steering.probe? p.id = some p) (o : Outcome) :
    Writes c (.endProbe p.id o) (c.endProbe p o).records := by
  cases o with
  | missed =>
      show Writes c _ (c.miss p.address).records
      unfold miss
      split
      · next known hk => exact .miss hp hk
      · next hk => exact .missUnknown hp hk
  | found f => exact .meet hp
  | crashed => exact .fail

/-- **`take_writes`** — every turn that can be taken writes down what `Writes` says. -/
theorem take_writes {t : Turn} (h : c.take t = some e) : Writes c t e.records := by
  cases t with
  | start =>
      cases h
      rw [start, records_arm]
      exact .nothing rfl
  | resume =>
      cases h
      rw [resume, records_arm]
      exact .nothing rfl
  | pause =>
      cases h
      rw [records_pause]
      exact .nothing rfl
  | setOptions o =>
      cases h
      rw [records_setOptions]
      exact .nothing rfl
  | remove a =>
      cases h
      exact writes_remove a
  | requestSweep =>
      cases h
      exact .nothing rfl
  | lookUp text =>
      cases h
      rw [records_beginLookup]
      exact .nothing rfl
  | embark id =>
      cases hs : c.sweep? id with
      | none => simp [take, hs] at h
      | some s =>
          obtain rfl := Steering.id_of_sweep? (σ := c.steering) hs
          simp only [take, hs, Option.bind_eq_bind, Option.bind_some] at h
          split at h
          · next p hp =>
            cases h
            exact writes_embark hp
          · cases h
  | list id names =>
      cases names with
      | ok names =>
          obtain ⟨s, hs, rfl, hp, rfl⟩ := settleListing_eq_some h
          exact writes_listed hs hp names
      | error x =>
          obtain ⟨s, hs, rfl, hp, rfl⟩ := settleListing_eq_some h
          exact .halt hs hp (.inl trivial)
  | collapse id =>
      obtain ⟨s, -, -, -, rfl⟩ := settleListing_eq_some h
      exact .nothing rfl
  | proceed id =>
      obtain ⟨s, hs, hp⟩ := Option.bind_eq_some_iff.mp h
      obtain rfl := Steering.id_of_sweep? (σ := c.steering) hs
      exact writes_proceed hs hp
  | ping id =>
      cases hp : c.probe? id with
      | none => simp [take, hp] at h
      | some p =>
          simp only [take, hp, Option.bind_eq_bind, Option.bind_some] at h
          split at h <;> cases h
          exact .nothing rfl
  | endProbe id o =>
      cases hp : c.probe? id with
      | none => simp [take, hp] at h
      | some p =>
          obtain rfl := Steering.id_of_probe? (σ := c.steering) hp
          simp only [take, hp, Option.bind_eq_bind, Option.bind_some] at h
          split at h <;> cases h
          exact writes_endProbe hp o
  | endLookup id o =>
      obtain ⟨l, -, rfl⟩ := Option.map_eq_some_iff.mp h
      rw [records_endLookup]
      exact .nothing rfl
  | alarm =>
      rw [records_timerTurn h]
      exact .nothing rfl
  | tick =>
      rw [records_tickTurn h]
      exact .nothing rfl
  | pass n =>
      simp only [take] at h
      split at h <;> cases h
      exact .nothing rfl

end Census

/-! ## Histories with their records -/

/-- **`Deed`** — a turn with the census before and after it. -/
structure Deed where
  before : Census
  turn : Turn
  after : Census

/-- What a history of the steering keeps of a deed. -/
def Deed.step (x : Deed) : Step := ⟨x.before.steering, x.turn, x.after.steering⟩

namespace Census

/-- **`Story c h d`** — the deeds of the history `h`, the latest in front, lead from `c` to `d`. -/
inductive Story (c : Census) : List Deed → Census → Prop
  | start : Story c [] c
  | turn {h : List Deed} {d e : Census} {t : Turn} :
      Story c h d → d.take t = some e → Story c (⟨d, t, e⟩ :: h) e

/-- A story is a run whose history remembers more. -/
theorem Story.run {c d : Census} {h : List Deed} (hs : Story c h d) :
    Run c (h.map Deed.step) d := by
  induction hs with
  | start => exact .start
  | turn _ ht ih => exact ih.turn ht

theorem Story.append {c d e : Census} {h k : List Deed} (hs : Story c h d) (hk : Story d k e) :
    Story c (k ++ h) e := by
  induction hk with
  | start => exact hs
  | turn _ ht ih => exact ih.turn ht

/-- The deeds of turns that come one after another. -/
def chronicle (c : Census) : List Turn → List Deed
  | [] => []
  | t :: ts =>
    match c.take t with
    | some d => d.chronicle ts ++ [⟨c, t, d⟩]
    | none => []

theorem story_of_replay {c d : Census} {ts : List Turn} (h : c.replay ts = some d) :
    Story c (c.chronicle ts) d := by
  induction ts generalizing c with
  | nil =>
      cases h
      exact .start
  | cons t ts ih =>
      obtain ⟨e, he, hrest⟩ := Option.bind_eq_some_iff.mp h
      simp only [chronicle, he]
      exact (Story.start.turn he).append (ih hrest)

end Census

end LanCensus
