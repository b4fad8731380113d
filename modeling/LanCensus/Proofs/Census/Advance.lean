/-
# LanCensus.Proofs.Census.Advance -- the sweep in flight, turn by turn

Only one sweep is in flight at a time, and all probes belong to it. So a turn that is taken while the
sweep `s` is in flight is a turn of `s`, a turn of one of its probes, or one that leaves both alone.
`Advance` lists these turns with what they make of the sweep, of the probes and of the records, and
`advance_of_take` is its proof. It joins `Moves` and `Writes`; what is shown of a sweep from its
beginning to its end goes by cases on it.
-/

import LanCensus.Proofs.Census.Course
import LanCensus.Proofs.Census.Records
import LanCensus.Proofs.Census.Supply

namespace LanCensus

/-- Whether the turn is one of a sweep that has begun, or of a probe. -/
def Turn.isWork : Turn → Bool
  | .list .. | .collapse _ | .proceed _ | .ping _ | .endProbe .. => true
  | _ => false

/-- Whether the owner stops sweeping with the turn. -/
def Turn.isPause : Turn → Bool
  | .pause => true
  | _ => false

/-- Whether the owner takes a device out of the inventory with the turn. -/
def Turn.isRemoval : Turn → Bool
  | .remove _ => true
  | _ => false

theorem Turn.silent_of_isStart {t : Turn} (h : t.isStart = true) :
    t.writes = false ∧ t.isWork = false := by
  cases t with
  | start | resume => exact ⟨rfl, rfl⟩
  | _ => cases h

theorem Sweep.Phase.ne_of_inFlight {φ ψ : Phase} (h : φ.inFlight = true)
    (hψ : ψ.inFlight = false) : φ ≠ ψ := by
  rintro rfl
  cases h.symm.trans hψ

/-! ## The numbers of probes -/

/-- **`Numbered σ`** — the probes have different numbers, and none has the number that is fresh. -/
structure Numbered (σ : Steering) : Prop where
  below : ∀ p ∈ σ.probes, p.id < σ.fresh
  distinct : (σ.probes.map Probe.id).Nodup

namespace Numbered

open Steering

variable {σ τ : Steering} {t : Turn}

/-- Probes with the same number are the same. -/
theorem eq_of_id (h : Numbered σ) {p q : Probe} (hp : p ∈ σ.probes) (hq : q ∈ σ.probes)
    (he : p.id = q.id) : p = q :=
  List.inj_on_of_nodup_map h.distinct hp hq he

theorem of_sublist (h : Numbered σ) (hp : τ.probes.Sublist σ.probes) (hf : σ.fresh ≤ τ.fresh) :
    Numbered τ where
  below p hm := Nat.lt_of_lt_of_le (h.below p (hp.subset hm)) hf
  distinct := h.distinct.sublist (hp.map Probe.id)

/-- A new probe takes the number that is fresh. -/
theorem launch (h : Numbered σ) (s : Sweep) (x : Sweep.Target) : Numbered (σ.launch s x) where
  below p hp := by
    rcases List.mem_append.mp hp with hp | hp
    · exact Nat.lt_succ_of_lt (h.below p hp)
    · obtain rfl := List.mem_singleton.mp hp
      exact Nat.lt_succ_self _
  distinct := by
    show ((σ.probes ++ [_]).map Probe.id).Nodup
    rw [List.map_append, List.nodup_append]
    refine ⟨h.distinct, List.nodup_singleton _, ?_⟩
    intro n hn m hm he
    obtain ⟨p, hp, rfl⟩ := List.mem_map.mp hn
    obtain rfl := List.mem_singleton.mp hm
    exact Nat.ne_of_lt (h.below p hp) he

/-- Changes that leave the numbers alone. -/
theorem map (h : Numbered σ) {f : Probe → Probe} (hf : ∀ p, (f p).id = p.id) :
    Numbered { σ with probes := σ.probes.map f } where
  below p hp := by
    obtain ⟨q, hq, rfl⟩ := List.mem_map.mp hp
    rw [hf]
    exact h.below q hq
  distinct := by
    show ((σ.probes.map f).map Probe.id).Nodup
    rw [List.map_map, show Probe.id ∘ f = Probe.id from funext hf]
    exact h.distinct

theorem moves (h : Numbered σ) (hm : Moves σ t τ) : Numbered τ := by
  cases hm with
  | keepArmed | refuse | remove | endLookup => exact h
  | armTimer | pause | adopt | disband | turnAway | embark | abort | callOff | setOut | await
  | stop | wake | alarmOff | alarmSet | alarmRing | tickOff | tick | pass =>
      exact h.of_sublist (List.Sublist.refl _) (Nat.le_refl _)
  | armOnce | request | alarmAsk => exact h.of_sublist (List.Sublist.refl _) (Nat.le_succ _)
  | lookUp hn => exact h.of_sublist (List.Sublist.refl _) hn
  | overload | collapse | endProbe => exact h.of_sublist List.filter_sublist (Nat.le_refl _)
  | dispatch => exact (h.launch _ _).of_sublist (List.Sublist.refl _) (Nat.le_refl _)
  | stumble => exact (h.launch _ _).of_sublist List.filter_sublist (Nat.le_refl _)
  | complete =>
      obtain ⟨n, hn⟩ := σ.publish_eq _
      rw [hn]
      exact h.of_sublist (List.Sublist.refl _) (Nat.le_refl _)
  | alarmBusy | alarmFollow =>
      obtain ⟨n, hn⟩ := σ.planAhead_eq
      rw [hn]
      exact h.of_sublist (List.Sublist.refl _) (Nat.le_refl _)
  | ping =>
      refine h.map fun q => ?_
      split <;> rfl

end Numbered

/-! ## What the end of a probe writes down -/

/-- **`settle R a now o`** — the records after a probe of the address has ended. -/
def Records.settle (R : Records) (a : Address) (now : Instant) : Outcome → Records
  | .missed =>
    match R.inventory.find? a with
    | some known => R.change (.updated known.offline) (R.inventory.offline a)
    | none => R
  | .found f =>
    R.change (R.inventory.noticeOf (f.device a now)) (R.inventory.absorb (f.device a now))
  | .crashed => R

namespace Records

variable (R : Records) {a : Address} (now : Instant)

theorem settle_missed_of_known {known : Device} (hk : R.inventory.find? a = some known) :
    R.settle a now .missed = R.change (.updated known.offline) (R.inventory.offline a) := by
  show (match R.inventory.find? a with
    | some known => R.change (.updated known.offline) (R.inventory.offline a)
    | none => R) = _
  rw [hk]

theorem settle_missed_of_unknown (hk : R.inventory.find? a = none) :
    R.settle a now .missed = R := by
  show (match R.inventory.find? a with
    | some known => R.change (.updated known.offline) (R.inventory.offline a)
    | none => R) = _
  rw [hk]

end Records

namespace Census

variable {c e : Census}

/-- The probe with the number of `p` has pinged its address. -/
def begun (c : Census) (p : Probe) : List Probe :=
  c.probes.map fun q => if q.id = p.id then { q with begun := true } else q

/-- The probe that a sweep dispatches for the target. -/
def probeFor (c : Census) (s : Sweep) (x : Sweep.Target) : Probe :=
  ⟨c.fresh, s.id, x.address, s.options.pingTimeoutMillis.toNat, false⟩

/-! ## All that can happen to the sweep in flight -/

/-- **`Advance c s t ps s' R`** — the turn `t`, taken while the sweep `s` of the census `c` is in
flight, can leave the probes `ps`, the sweep as `s'` and the records `R`. -/
inductive Advance (c : Census) (s : Sweep) : Turn → List Probe → Sweep → Records → Prop
  -- Others have their turn.
  | aside {t : Turn} : t.isWork = false → t.isRemoval = false →
      Advance c s t c.probes s c.records
  | remove {a : Address} {R : Records} : R.dispatched = c.dispatched → R.lastSweep = c.lastSweep →
      R.signals = c.records.signals → Advance c s (.remove a) c.probes s R
  -- The sweep learns of the subnets.
  | halt {names : Except SubnetError (List String)} {l : List Device} :
      s.phase = .listing → c.probes = [] → NoSubnets names ∨ c.pauses ≠ s.pauses →
      Advance c s (.list s.id names) [] { s with phase := .ended l } (c.records.signal false)
  | overload {names : List String} : s.phase = .listing → c.probes = [] → named names ≠ [] →
      c.pauses = s.pauses → permitLimit < s.options.maxProbes.toNat →
      Advance c s (.list s.id (.ok names)) [] { s with phase := .crashed }
        { c.records with inventory := c.inventory.allOffline }
  | setOut {names : List String} : s.phase = .listing → c.probes = [] → named names ≠ [] →
      c.pauses = s.pauses → s.options.maxProbes.toNat ≤ permitLimit →
      Advance c s (.list s.id (.ok names)) []
        { s with
          phase := .ready
          targets := targetsOf s.options (named names)
          total := (named names).length * s.options.octetCount
          permits := s.options.maxProbes.toNat }
        { c.records with inventory := c.inventory.allOffline }
  | collapse : s.phase = .listing → c.probes = [] →
      Advance c s (.collapse s.id) [] { s with phase := .crashed } c.records
  -- The sweep goes on.
  | await : s.phase = .ready → s.targets ≠ [] → c.pauses = s.pauses → s.permits = 0 →
      Advance c s (.proceed s.id) c.probes { s with phase := .waiting } c.records
  | stop : s.phase = .ready ∨ s.phase = .waiting → s.targets = [] ∨ c.pauses ≠ s.pauses →
      Advance c s (.proceed s.id) c.probes { s with phase := .draining } c.records
  | dispatch {x : Sweep.Target} {rest : List Sweep.Target} {φ : Sweep.Phase} :
      s.phase = .ready ∨ s.phase = .waiting → s.targets = x :: rest → c.pauses = s.pauses →
      0 < s.permits → φ = .ready ∨ (∃ w, φ = .resting w) →
      Advance c s (.proceed s.id) (c.probes ++ [c.probeFor s x])
        { s with
          phase := φ, targets := rest, permits := s.permits - 1, dispatched := s.dispatched + 1 }
        { c.records with dispatched := c.dispatched + 1 }
  | wake {w : Instant} : s.phase = .resting w → w ≤ c.now →
      Advance c s (.proceed s.id) c.probes { s with phase := .ready } c.records
  | complete {l : List Device} : s.phase = .draining → c.probes = [] →
      Advance c s (.proceed s.id) [] { s with phase := .ended l }
        ({ c.records with lastSweep := some c.now }.signal false)
  -- One of its probes goes on.
  | ping {p : Probe} : p ∈ c.probes → p.begun = false →
      Advance c s (.ping p.id) (c.begun p) s c.records
  | endProbe {p : Probe} {o : Outcome} {b : Bool} : p ∈ c.probes → p.begun = true →
      Advance c s (.endProbe p.id o) (c.probes.filter (·.id ≠ p.id))
        { s with permits := s.permits + 1, answered := s.answered + b.toNat }
        (c.records.settle p.address c.now o)

/-- A turn keeps the number of the sweep, the pauses it counts from and its options. -/
theorem Advance.same {s s' : Sweep} {t : Turn} {ps : List Probe} {R : Records}
    (h : Advance c s t ps s' R) :
    s'.id = s.id ∧ s'.pauses = s.pauses ∧ s'.options = s.options := by
  cases h <;> exact ⟨rfl, rfl, rfl⟩

end Census

/-! ## Every turn is one of these -/

section

open Steering

variable {σ τ : Steering} {t : Turn} {s u : Sweep}

/-- Only one sweep is in flight. -/
theorem Orderly.eq_of_inFlight (h : Orderly σ) (hs : σ.sweep? s.id = some s)
    (hf : s.phase.inFlight = true) (hu : σ.sweep? u.id = some u)
    (hfu : u.phase.inFlight = true) : u = s :=
  h.sweeps.alone u (mem_of_sweep? hu) s (mem_of_sweep? hs) hfu hf

/-- Every probe belongs to the sweep in flight. -/
theorem Supplied.sweep_eq (h : Supplied σ) (ho : Orderly σ) (hs : σ.sweep? s.id = some s)
    (hf : s.phase.inFlight = true) {p : Probe} (hp : p ∈ σ.probes) : p.sweep = s.id := by
  obtain ⟨u, hu, hid, hset⟩ := h.belong p hp
  have he := ho.eq_of_inFlight hs hf (ho.sweep?_of_mem hu) (Sweep.Phase.inFlight_of_hasSetOut hset)
  rw [← hid, he]

theorem Supplied.probes_eq_nil (h : Supplied σ) (ho : Orderly σ) (hs : σ.sweep? s.id = some s)
    (hf : s.phase.inFlight = true) (hno : ∀ p ∈ σ.probes, p.sweep ≠ s.id) : σ.probes = [] := by
  apply List.eq_nil_iff_forall_not_mem.mpr
  intro p hp
  exact hno p hp (h.sweep_eq ho hs hf hp)

/-- A sweep that waits for its subnets has no probes, and nobody else has. -/
theorem Supplied.probes_of_listing (h : Supplied σ) (ho : Orderly σ)
    (hs : σ.sweep? s.id = some s) (hp : s.phase = .listing) : σ.probes = [] := by
  refine h.probes_eq_nil ho hs (by rw [hp]; rfl) (h.no_probes ho (mem_of_sweep? hs) ?_)
  rw [hp]
  rfl

theorem sweep?_ask_of_sweep? (ho : Orderly σ) (hs : σ.sweep? s.id = some s) (p : Option Nat) :
    (σ.ask p).sweep? s.id = some s := by
  rw [sweep?_ask_of_ne (Nat.ne_of_lt (ho.sweeps.below s (mem_of_sweep? hs))), hs]

theorem sweep?_release {p : Probe} (hs : σ.sweep? s.id = some s) (hp : p.sweep = s.id) (b : Bool) :
    (σ.release p b).sweep? s.id =
      some { s with permits := s.permits + 1, answered := s.answered + b.toNat } := by
  rw [sweep?, release, find?_map_id]
  · rw [show σ.sweeps.find? (·.id == s.id) = some s from hs, Option.map_some, if_pos hp.symm]
  · intro v
    split <;> rfl

end

section

open Steering

variable {c : Census} {s : Sweep} {t : Turn} {τ : Steering} {R : Records}

theorem Writes.eq_of_silent (hw : Writes c t R) (h : t.writes = false) : R = c.records := by
  cases hw with
  | nothing => rfl
  | _ => cases h

theorem Writes.settle {id : Nat} {p : Probe} {o : Outcome} {R : Records}
    (hp : c.steering.probe? id = some p) (hw : Writes c (.endProbe id o) R) :
    R = c.records.settle p.address c.now o := by
  cases hw with
  | nothing h => cases h
  | miss hq hk =>
      obtain rfl := Option.some.inj (hp.symm.trans hq)
      exact (c.records.settle_missed_of_known c.now hk).symm
  | missUnknown hq hk =>
      obtain rfl := Option.some.inj (hp.symm.trans hq)
      exact (c.records.settle_missed_of_unknown c.now hk).symm
  | meet hq =>
      obtain rfl := Option.some.inj (hp.symm.trans hq)
      rfl
  | fail => rfl

/-- The list of subnets is of no use to the sweep. -/
theorem Writes.eq_of_halt {names : Except SubnetError (List String)}
    (hs : c.steering.sweep? s.id = some s) (hor : NoSubnets names ∨ c.pauses ≠ s.pauses)
    (hw : Writes c (.list s.id names) R) : R = c.records.signal false := by
  cases hw with
  | nothing h => cases h
  | halt => rfl
  | setOut hu _ hn hq =>
      obtain rfl := Option.some.inj (hs.symm.trans hu)
      exact (hor.elim hn fun hne => hne hq).elim

theorem Writes.eq_of_setOut {names : List String} (hs : c.steering.sweep? s.id = some s)
    (hn : Census.named names ≠ []) (hq : c.pauses = s.pauses)
    (hw : Writes c (.list s.id (.ok names)) R) :
    R = { c.records with inventory := c.inventory.allOffline } := by
  cases hw with
  | nothing h => cases h
  | halt hu _ hor =>
      obtain rfl := Option.some.inj (hs.symm.trans hu)
      exact (hor.elim hn fun hne => hne hq).elim
  | setOut => rfl

/-- The sweep goes on, and dispatches nothing. -/
theorem Writes.eq_of_hold (hs : c.steering.sweep? s.id = some s) (hnot : s.phase ≠ .draining)
    (hor : s.phase = .ready ∨ s.phase = .waiting →
      s.targets = [] ∨ c.pauses ≠ s.pauses ∨ s.permits = 0)
    (hw : Writes c (.proceed s.id) R) : R = c.records := by
  cases hw with
  | nothing h => cases h
  | dispatch hu hp hx hq hpos =>
      obtain rfl := Option.some.inj (hs.symm.trans hu)
      rcases hor hp with hnil | hne | hz
      · exact absurd hnil hx
      · exact absurd hq hne
      · exact absurd hz (Nat.ne_of_gt hpos)
  | hold => rfl
  | complete hu hp =>
      obtain rfl := Option.some.inj (hs.symm.trans hu)
      exact absurd hp hnot

theorem Writes.eq_of_dispatch (hs : c.steering.sweep? s.id = some s)
    (hp : s.phase = .ready ∨ s.phase = .waiting) (hx : s.targets ≠ [])
    (hq : c.pauses = s.pauses) (hpos : 0 < s.permits) (hw : Writes c (.proceed s.id) R) :
    R = { c.records with dispatched := c.dispatched + 1 } := by
  cases hw with
  | nothing h => cases h
  | dispatch => rfl
  | hold hu _ hor =>
      obtain rfl := Option.some.inj (hs.symm.trans hu)
      rcases hor hp with hnil | hne | hz
      · exact absurd hnil hx
      · exact absurd hq hne
      · exact absurd hz (Nat.ne_of_gt hpos)
  | complete hu hd =>
      obtain rfl := Option.some.inj (hs.symm.trans hu)
      rcases hp with hp | hp <;> cases hp.symm.trans hd

theorem Writes.eq_of_complete (hs : c.steering.sweep? s.id = some s) (hp : s.phase = .draining)
    (hw : Writes c (.proceed s.id) R) :
    R = ({ c.records with lastSweep := some c.now }.signal false) := by
  cases hw with
  | nothing h => cases h
  | dispatch hu hor =>
      obtain rfl := Option.some.inj (hs.symm.trans hu)
      rcases hor with h | h <;> cases hp.symm.trans h
  | hold hu hnot =>
      obtain rfl := Option.some.inj (hs.symm.trans hu)
      exact absurd hp hnot
  | complete => rfl

/-- The turns of others. -/
theorem Writes.aside (hw : Writes c t R) (hs : τ.sweep? s.id = some s)
    (hps : τ.probes = c.probes) (hsilent : t.writes = false) (hwork : t.isWork = false) :
    ∃ s', τ.sweep? s.id = some s' ∧ c.Advance s t τ.probes s' R := by
  rw [hw.eq_of_silent hsilent, hps]
  refine ⟨s, hs, .aside hwork ?_⟩
  cases t with
  | remove => cases hsilent
  | _ => rfl

theorem Moves.advance (ho : Orderly c.steering) (hsupp : Supplied c.steering)
    (hs : c.steering.sweep? s.id = some s) (hf : s.phase.inFlight = true)
    (hm : Moves c.steering t τ) (hw : Writes c t R) :
    ∃ s', τ.sweep? s.id = some s' ∧ c.Advance s t τ.probes s' R := by
  have hbusy : c.sweeping = true := ho.sweeps.busy_of s (mem_of_sweep? hs) hf
  have hvalid := hsupp.options s (mem_of_sweep? hs) hf
  -- The sweep that has its turn is in flight, and so it is `s`.
  have halone : ∀ u, c.steering.sweep? u.id = some u → u.phase.inFlight = true → u = s :=
    fun u hu hfu => ho.eq_of_inFlight hs hf hu hfu
  cases hm with
  | keepArmed ht | armTimer ht =>
      obtain ⟨hsilent, hwork⟩ := Turn.silent_of_isStart ht
      exact hw.aside hs rfl hsilent hwork
  | armOnce ht =>
      obtain ⟨hsilent, hwork⟩ := Turn.silent_of_isStart ht
      exact hw.aside (sweep?_ask_of_sweep? ho hs _) rfl hsilent hwork
  | pause | refuse | adopt | disband | lookUp | endLookup | alarmOff | alarmSet | alarmRing
  | tickOff | tick | pass => exact hw.aside hs rfl rfl rfl
  | request => exact hw.aside (sweep?_ask_of_sweep? ho hs _) rfl rfl rfl
  | alarmBusy | alarmFollow =>
      obtain ⟨n, hn⟩ := c.steering.planAhead_eq
      rw [hn]
      exact hw.aside hs rfl rfl rfl
  | alarmAsk => exact hw.aside (sweep?_ask_of_sweep? ho hs _) rfl rfl rfl
  | remove =>
      refine ⟨s, hs, ?_⟩
      cases hw with
      | nothing h => cases h
      | remove => exact .remove rfl rfl rfl
      | removeUnknown => exact .remove rfl rfl rfl
  | @turnAway u _ _ hu hq _ =>
      have hne : s.id ≠ u.id := by
        intro he
        rw [← he, hs] at hu
        obtain rfl := Option.some.inj hu
        rw [hq] at hf
        cases hf
      refine ⟨s, (sweep?_put_of_ne ?_).trans hs, ?_⟩
      · exact hne
      cases hw with
      | nothing h => cases h
      | turnAway => exact .aside rfl rfl
      | embark h => cases h.symm.trans hbusy
  | embark _ _ hb => cases hb.symm.trans hbusy
  -- The sweep learns of the subnets, and nobody has probes.
  | abort hu hp hno =>
      obtain rfl := halone _ hu (by rw [hp]; rfl)
      have hnil : c.probes = [] := hsupp.probes_of_listing ho hs hp
      refine ⟨_, sweep?_put_self hs rfl, ?_⟩
      show c.Advance _ _ c.probes _ R
      rw [hnil, hw.eq_of_halt hs (.inl hno)]
      exact .halt hp hnil (.inl hno)
  | callOff hu hp hn hq =>
      obtain rfl := halone _ hu (by rw [hp]; rfl)
      have hnil : c.probes = [] := hsupp.probes_of_listing ho hs hp
      refine ⟨_, sweep?_put_self hs rfl, ?_⟩
      show c.Advance _ _ c.probes _ R
      rw [hnil, hw.eq_of_halt hs (.inr hq)]
      exact .halt hp hnil (.inr hq)
  | overload hu hp hn hq hlim =>
      obtain rfl := halone _ hu (by rw [hp]; rfl)
      have hnil : c.probes = [] := hsupp.probes_of_listing ho hs hp
      refine ⟨_, sweep?_put_self hs rfl, ?_⟩
      show c.Advance _ _ (c.probes.filter _) _ R
      rw [hnil, hw.eq_of_setOut hs hn hq]
      exact .overload hp hnil hn hq hlim
  | setOut hu hp hn hq hlim =>
      obtain rfl := halone _ hu (by rw [hp]; rfl)
      have hnil : c.probes = [] := hsupp.probes_of_listing ho hs hp
      refine ⟨_, sweep?_put_self hs rfl, ?_⟩
      show c.Advance _ _ c.probes _ R
      rw [hnil, hw.eq_of_setOut hs hn hq]
      exact .setOut hp hnil hn hq hlim
  | collapse hu hp =>
      obtain rfl := halone _ hu (by rw [hp]; rfl)
      have hnil : c.probes = [] := hsupp.probes_of_listing ho hs hp
      refine ⟨_, sweep?_put_self hs rfl, ?_⟩
      show c.Advance _ _ (c.probes.filter _) _ R
      rw [hnil, hw.eq_of_silent rfl]
      exact .collapse hp hnil
  -- The sweep goes on.
  | await hu hp hx hq hz =>
      obtain rfl := halone _ hu (by rw [hp]; rfl)
      refine ⟨_, sweep?_put_self hs rfl, ?_⟩
      rw [hw.eq_of_hold hs (by simp [hp]) fun _ => .inr (.inr hz)]
      exact .await hp hx hq hz
  | @stop u hu hp hor =>
      obtain rfl := halone _ hu (Sweep.inFlight_of_ready hp)
      refine ⟨_, sweep?_put_self hs rfl, ?_⟩
      have hnot : u.phase ≠ .draining := by rcases hp with hp | hp <;> simp [hp]
      rw [hw.eq_of_hold hs hnot fun _ => hor.imp_right .inl]
      exact .stop hp hor
  | dispatch hu hp hx hq hpos hφ =>
      obtain rfl := halone _ hu (Sweep.inFlight_of_ready hp)
      refine ⟨_, sweep?_put_self (σ := c.steering.launch _ _) hs rfl, ?_⟩
      rw [hw.eq_of_dispatch hs hp (by simp [hx]) hq hpos]
      exact .dispatch hp hx hq hpos hφ
  | stumble hu hp _ hb =>
      obtain rfl := halone _ hu (Sweep.inFlight_of_ready hp)
      exact absurd hb hvalid.bounds.2.1
  | wake hu hp hwk =>
      obtain rfl := halone _ hu (by rw [hp]; rfl)
      refine ⟨_, sweep?_put_self hs rfl, ?_⟩
      rw [hw.eq_of_hold hs (by simp [hp]) fun hor => by simp [hp] at hor]
      exact .wake hp hwk
  | complete hu hp hno =>
      obtain rfl := halone _ hu (by rw [hp]; rfl)
      have hnil : c.probes = [] := hsupp.probes_eq_nil ho hs hf hno
      obtain ⟨n, hn⟩ := c.steering.publish_eq _
      rw [hn]
      refine ⟨_, sweep?_put_self hs rfl, ?_⟩
      show c.Advance _ _ c.probes _ R
      rw [hnil, hw.eq_of_complete hs hp]
      exact .complete hp hnil
  -- One of the probes goes on.
  | ping hp hb =>
      refine ⟨s, hs, ?_⟩
      rw [hw.eq_of_silent rfl]
      exact .ping (List.mem_of_find?_eq_some hp) hb
  | @endProbe p o b hp hb =>
      have hmem : p ∈ c.probes := List.mem_of_find?_eq_some hp
      refine ⟨_, sweep?_release hs (hsupp.sweep_eq ho hs hf hmem) b, ?_⟩
      rw [hw.settle hp]
      exact .endProbe hmem hb

end

namespace Census

variable {c e : Census} {s : Sweep} {t : Turn}

/-- **`advance_of_take`** — every turn that is taken while the sweep `s` is in flight is one of those
of `Advance`. -/
theorem advance_of_take (ho : Orderly c.steering) (hsupp : Supplied c.steering)
    (hs : c.steering.sweep? s.id = some s) (hf : s.phase.inFlight = true)
    (ht : c.take t = some e) :
    ∃ s', e.steering.sweep? s.id = some s' ∧ Advance c s t e.probes s' e.records :=
  (take_moves ht).advance ho hsupp hs hf (take_writes ht)

/-- Only a pause is counted as one. -/
theorem pauses_of_take (ht : c.take t = some e) (hp : t.isPause = false) : e.pauses = c.pauses := by
  have hm := take_moves ht
  show e.steering.pauses = c.steering.pauses
  generalize e.steering = τ at hm
  cases hm with
  | pause => cases hp
  | complete =>
      obtain ⟨n, hn⟩ := c.steering.publish_eq _
      rw [hn]
      rfl
  | alarmBusy | alarmFollow =>
      obtain ⟨n, hn⟩ := c.steering.planAhead_eq
      rw [hn]
  | _ => rfl

end Census

end LanCensus
