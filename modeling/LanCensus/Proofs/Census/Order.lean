/-
# LanCensus.Proofs.Census.Order -- what holds of every census

`InOrder` is about the sweeps that were asked for: they have different numbers, and one is in flight
exactly while the census says that it is sweeping, and then only one. `Orderly` adds that the
options describe a sweep and that a timer belongs to a census that is armed with continuous options
and has not been paused since. Every turn preserves both (`Orderly.moves`), so they hold of every
run (`Run.orderly`).

`Fate` sorts the turns by what they do to sweeps in flight: none is over, one ends, or one fails.
-/

import LanCensus.Proofs.Census.History
import Mathlib.Data.List.Nodup

namespace LanCensus

/-! ## Sweeps in order -/

/-- **`InOrder ss busy n`** — the sweeps `ss` have different numbers below `n`, and exactly one of
them is in flight if `busy`, otherwise none. -/
structure InOrder (ss : List Sweep) (busy : Bool) (n : Nat) : Prop where
  below : ∀ s ∈ ss, s.id < n
  distinct : (ss.map (·.id)).Nodup
  busy_of : ∀ s ∈ ss, s.phase.inFlight = true → busy = true
  alone : ∀ s ∈ ss, ∀ u ∈ ss, s.phase.inFlight = true → u.phase.inFlight = true → s = u
  exists_of : busy = true → ∃ s ∈ ss, s.phase.inFlight = true

namespace InOrder

variable {ss : List Sweep} {b : Bool} {n : Nat}

/-- Sweeps with the same number are the same. -/
theorem eq_of_id (h : InOrder ss b n) {s u : Sweep} (hs : s ∈ ss) (hu : u ∈ ss)
    (he : s.id = u.id) : s = u :=
  List.inj_on_of_nodup_map h.distinct hs hu he

theorem mono (h : InOrder ss b n) {m : Nat} (hm : n ≤ m) : InOrder ss b m :=
  { h with below := fun s hs => Nat.lt_of_lt_of_le (h.below s hs) hm }

theorem ask (h : InOrder ss b n) (p : Option Nat) (o : Sweep.Options) :
    InOrder (.queued n p o :: ss) b (n + 1) where
  below := by
    rw [List.forall_mem_cons]
    exact ⟨Nat.lt_succ_self n, (h.mono (Nat.le_succ n)).below⟩
  distinct := by
    rw [List.map_cons, List.nodup_cons]
    refine ⟨fun hm => ?_, h.distinct⟩
    obtain ⟨s, hs, he⟩ := List.mem_map.mp hm
    have hlt := h.below s hs
    rw [he] at hlt
    exact Nat.lt_irrefl n hlt
  busy_of := by
    rw [List.forall_mem_cons]
    exact ⟨fun hf => (Bool.false_ne_true hf).elim, h.busy_of⟩
  alone := by
    intro s hs u hu hfs hfu
    rcases List.mem_cons.mp hs with rfl | hs
    · exact (Bool.false_ne_true hfs).elim
    · rcases List.mem_cons.mp hu with rfl | hu
      · exact (Bool.false_ne_true hfu).elim
      · exact h.alone s hs u hu hfs hfu
  exists_of hb := by
    obtain ⟨s, hs, hf⟩ := h.exists_of hb
    exact ⟨s, List.mem_cons_of_mem _ hs, hf⟩

/-- Changes that leave numbers and phases alone leave the order. -/
theorem map (h : InOrder ss b n) {f : Sweep → Sweep} (hid : ∀ s, (f s).id = s.id)
    (hphase : ∀ s, (f s).phase = s.phase) : InOrder (ss.map f) b n where
  below := by
    intro s hs
    obtain ⟨u, hu, rfl⟩ := List.mem_map.mp hs
    rw [hid]
    exact h.below u hu
  distinct := by
    rw [List.map_map, show ((·.id) ∘ f : Sweep → Nat) = (·.id) from funext hid]
    exact h.distinct
  busy_of := by
    intro s hs hf
    obtain ⟨u, hu, rfl⟩ := List.mem_map.mp hs
    rw [hphase] at hf
    exact h.busy_of u hu hf
  alone := by
    intro s hs u hu hfs hfu
    obtain ⟨s', hs', rfl⟩ := List.mem_map.mp hs
    obtain ⟨u', hu', rfl⟩ := List.mem_map.mp hu
    rw [hphase] at hfs hfu
    rw [h.alone s' hs' u' hu' hfs hfu]
  exists_of hb := by
    obtain ⟨s, hs, hf⟩ := h.exists_of hb
    exact ⟨f s, List.mem_map_of_mem hs, by rw [hphase]; exact hf⟩

end InOrder

/-- A sweep that turns to its addresses is in flight. -/
theorem Sweep.inFlight_of_ready {s : Sweep} (h : s.phase = .ready ∨ s.phase = .waiting) :
    s.phase.inFlight = true := by
  rcases h with h | h <;> rw [h] <;> rfl

/-! ## Putting a sweep in its place -/

namespace Steering

variable {σ : Steering}

theorem mem_of_sweep? {id : Nat} {s : Sweep} (h : σ.sweep? id = some s) : s ∈ σ.sweeps :=
  List.mem_of_find?_eq_some h

theorem mem_put {s u : Sweep} (hu : u ∈ (σ.put s).sweeps) :
    u = s ∨ (u ∈ σ.sweeps ∧ u.id ≠ s.id) := by
  obtain ⟨v, hv, rfl⟩ := List.mem_map.mp hu
  by_cases he : v.id = s.id
  · rw [if_pos he]
    exact .inl rfl
  · rw [if_neg he]
    exact .inr ⟨hv, he⟩

theorem mem_put_of_ne {s u : Sweep} (hu : u ∈ σ.sweeps) (he : u.id ≠ s.id) :
    u ∈ (σ.put s).sweeps :=
  List.mem_map.mpr ⟨u, hu, if_neg he⟩

theorem mem_put_self {s u : Sweep} (hu : u ∈ σ.sweeps) (he : u.id = s.id) :
    s ∈ (σ.put s).sweeps :=
  List.mem_map.mpr ⟨u, hu, if_pos he⟩

theorem ids_put (s : Sweep) : (σ.put s).sweeps.map (·.id) = σ.sweeps.map (·.id) := by
  rw [put, List.map_map]
  apply List.map_congr_left
  intro u _
  show (if u.id = s.id then s else u).id = u.id
  split
  · next h => exact h.symm
  · rfl

/-- **`inOrder_put`** — a sweep `s` gives its place to `s'`. The new flag has to say whether `s'` or
another one is in flight, and `s'` may be in flight only if no other one is. -/
theorem inOrder_put {b b' : Bool} {n : Nat} (h : InOrder σ.sweeps b n) {s s' : Sweep}
    (hs : s ∈ σ.sweeps) (hid : s.id = s'.id)
    (hbusy : b' = true ↔ s'.phase.inFlight = true ∨ (b = true ∧ s.phase.inFlight = false))
    (hfree : s'.phase.inFlight = true → b = true → s.phase.inFlight = true) :
    InOrder (σ.put s').sweeps b' n where
  below := by
    intro u hu
    rcases mem_put hu with rfl | ⟨hu, -⟩
    · rw [← hid]
      exact h.below s hs
    · exact h.below u hu
  distinct := by
    rw [ids_put]
    exact h.distinct
  busy_of := by
    intro u hu hf
    rcases mem_put hu with rfl | ⟨hu, hne⟩
    · exact hbusy.mpr (.inl hf)
    -- Another sweep in flight keeps the flag, and then `s` was not in flight.
    · refine hbusy.mpr (.inr ⟨h.busy_of u hu hf, Bool.eq_false_iff.mpr fun hfs => hne ?_⟩)
      rw [h.alone u hu s hs hf hfs, hid]
  alone := by
    -- Were another sweep in flight beside `s'`, then `s` was, and was that other one.
    have hother : ∀ u ∈ σ.sweeps, u.id ≠ s'.id → u.phase.inFlight = true →
        s'.phase.inFlight = true → False := by
      intro u hu hne hfu hf'
      have hfs := hfree hf' (h.busy_of u hu hfu)
      rw [h.alone u hu s hs hfu hfs] at hne
      exact hne hid
    intro u hu v hv hfu hfv
    rcases mem_put hu with heu | ⟨hu, hune⟩
    · rcases mem_put hv with hev | ⟨hv, hvne⟩
      · rw [heu, hev]
      · exact (hother v hv hvne hfv (heu ▸ hfu)).elim
    · rcases mem_put hv with hev | ⟨hv, -⟩
      · exact (hother u hu hune hfu (hev ▸ hfv)).elim
      · exact h.alone u hu v hv hfu hfv
  exists_of hb := by
    rcases hbusy.mp hb with hf | ⟨hb, hfs⟩
    · exact ⟨s', mem_put_self hs hid, hf⟩
    · obtain ⟨u, hu, hfu⟩ := h.exists_of hb
      refine ⟨u, mem_put_of_ne hu fun he => ?_, hfu⟩
      rw [h.eq_of_id hu hs (he.trans hid.symm), hfs] at hfu
      exact Bool.false_ne_true hfu

/-- The place stays in flight, or stays out of it. -/
theorem inOrder_put_of_eq {b : Bool} {n : Nat} (h : InOrder σ.sweeps b n) {s s' : Sweep}
    (hs : s ∈ σ.sweeps) (hid : s.id = s'.id) (hf : s'.phase.inFlight = s.phase.inFlight) :
    InOrder (σ.put s').sweeps b n := by
  refine inOrder_put h hs hid ?_ fun h' _ => hf ▸ h'
  rw [hf]
  constructor
  · intro hb
    cases hfs : s.phase.inFlight with
    | true => exact .inl rfl
    | false => exact .inr ⟨hb, rfl⟩
  · rintro (hfs | ⟨hb, -⟩)
    · exact h.busy_of s hs hfs
    · exact hb

/-- A sweep in flight is over. -/
theorem inOrder_put_over {b : Bool} {n : Nat} (h : InOrder σ.sweeps b n) {s s' : Sweep}
    (hs : s ∈ σ.sweeps) (hid : s.id = s'.id) (hf : s.phase.inFlight = true)
    (hf' : s'.phase.inFlight = false) : InOrder (σ.put s').sweeps false n := by
  refine inOrder_put h hs hid ?_ ?_
  · rw [hf, hf']
    simp
  · intro h'
    rw [hf'] at h'
    cases h'

end Steering

/-! ## The order of a census -/

/-- **`Orderly σ`** — the options describe a sweep, the sweeps are in order, and a timer runs only
for a census that is armed with continuous options and has not been paused since. -/
structure Orderly (σ : Steering) : Prop where
  valid : σ.options.IsValid
  sweeps : InOrder σ.sweeps σ.sweeping σ.fresh
  timer : ∀ t, σ.timer = some t → σ.armed = true ∧ σ.options.continuous = true ∧
    t.pauses = σ.pauses ∧ t.alarm ≠ .off ∧ t.ticking = true

namespace Orderly

variable {σ τ : Steering} {t : Turn}

/-- The sweep with the number of one that was asked for is that one. -/
theorem sweep?_of_mem (h : Orderly σ) {s : Sweep} (hs : s ∈ σ.sweeps) :
    σ.sweep? s.id = some s := by
  cases hu : σ.sweep? s.id with
  | none => exact absurd (beq_self_eq_true s.id) (List.find?_eq_none.mp hu s hs)
  | some u =>
      rw [h.sweeps.eq_of_id (Steering.mem_of_sweep? hu) hs (Steering.id_of_sweep? hu)]

theorem conclude (h : Orderly σ) {s : Sweep} (hs : s ∈ σ.sweeps) (hf : s.phase.inFlight = true)
    (l : List Device) : Orderly (σ.conclude s l) where
  valid := h.valid
  sweeps := Steering.inOrder_put_over h.sweeps hs rfl hf rfl
  timer := by
    intro x hx
    obtain ⟨ha, ho, hrest⟩ := h.timer x hx
    exact ⟨by simp [Steering.conclude, Steering.put, ha, ho], ho, hrest⟩

theorem fail (h : Orderly σ) {s s' : Sweep} (hs : s ∈ σ.sweeps) (hid : s.id = s'.id)
    (hf : s.phase.inFlight = true) : Orderly (σ.fail s') where
  valid := h.valid
  sweeps := Steering.inOrder_put_over h.sweeps hs hid hf rfl
  timer := h.timer

/-- A sweep goes from one phase in flight to another. -/
theorem put (h : Orderly σ) {s s' : Sweep} (hs : s ∈ σ.sweeps) (hid : s.id = s'.id)
    (hf : s'.phase.inFlight = s.phase.inFlight) : Orderly (σ.put s') where
  valid := h.valid
  sweeps := Steering.inOrder_put_of_eq h.sweeps hs hid hf
  timer := h.timer

/-- The deadline has no part in the order. -/
theorem due (h : Orderly σ) (n : Option Instant) : Orderly { σ with nextSweep := n } :=
  ⟨h.valid, h.sweeps, h.timer⟩

theorem launch (h : Orderly σ) (s : Sweep) (x : Sweep.Target) : Orderly (σ.launch s x) :=
  ⟨h.valid, h.sweeps.mono (Nat.le_succ _), h.timer⟩

/-- The timer has another state, and still runs. -/
theorem retime (h : Orderly σ) {x y : Timer} (hx : σ.timer = some x) (hp : y.pauses = x.pauses)
    (ha : y.alarm ≠ .off) (hk : y.ticking = x.ticking) :
    Orderly { σ with timer := some y } where
  valid := h.valid
  sweeps := h.sweeps
  timer := by
    intro z hz
    cases hz
    obtain ⟨harmed, ho, hpauses, -, hticking⟩ := h.timer x hx
    exact ⟨harmed, ho, hp.trans hpauses, ha, hk.trans hticking⟩

theorem moves (h : Orderly σ) (hm : Moves σ t τ) : Orderly τ := by
  cases hm with
  | keepArmed | refuse | remove | endLookup => exact h
  | armTimer _ _ ho =>
      refine ⟨h.valid, h.sweeps, ?_⟩
      intro x hx
      cases hx
      exact ⟨rfl, ho, rfl, by simp, rfl⟩
  | armOnce =>
      refine ⟨h.valid, h.sweeps.ask _ _, ?_⟩
      intro x hx
      exact ⟨rfl, (h.timer x hx).2⟩
  | pause =>
      refine ⟨h.valid, h.sweeps, ?_⟩
      intro x hx
      cases hx
  | adopt hv ho =>
      refine ⟨hv, h.sweeps, ?_⟩
      intro x hx
      obtain ⟨harmed, -, hrest⟩ := h.timer x hx
      exact ⟨harmed, ho, hrest⟩
  | disband hv =>
      refine ⟨hv, h.sweeps, ?_⟩
      intro x hx
      cases hx
  | request => exact ⟨h.valid, h.sweeps.ask _ _, h.timer⟩
  | lookUp hn => exact ⟨h.valid, h.sweeps.mono hn, h.timer⟩
  -- From here on a sweep gives its place to itself in another phase.
  | turnAway hs hp _ => exact h.put (Steering.mem_of_sweep? hs) rfl (by rw [hp]; rfl)
  | embark hs hp hb =>
      -- No sweep was in flight, so the one that begins is alone.
      refine ⟨h.valid, ?_, h.timer⟩
      refine Steering.inOrder_put h.sweeps (Steering.mem_of_sweep? hs) rfl ?_ ?_
      · exact iff_of_true rfl (.inl rfl)
      · intro _ hbusy
        rw [hb] at hbusy
        cases hbusy
  | abort hs hp _ => exact h.conclude (Steering.mem_of_sweep? hs) (by rw [hp]; rfl) _
  | callOff hs hp _ _ => exact h.conclude (Steering.mem_of_sweep? hs) (by rw [hp]; rfl) _
  | overload hs hp _ _ _ => exact h.fail (Steering.mem_of_sweep? hs) rfl (by rw [hp]; rfl)
  | setOut hs hp _ _ _ => exact h.put (Steering.mem_of_sweep? hs) rfl (by rw [hp]; rfl)
  | collapse hs hp => exact h.fail (Steering.mem_of_sweep? hs) rfl (by rw [hp]; rfl)
  | await hs hp _ _ _ => exact h.put (Steering.mem_of_sweep? hs) rfl (by rw [hp]; rfl)
  | stop hs hp _ =>
      exact h.put (Steering.mem_of_sweep? hs) rfl (Sweep.inFlight_of_ready hp).symm
  | dispatch hs hp _ _ _ hφ =>
      refine (h.launch _ _).put (Steering.mem_of_sweep? hs) rfl ?_
      rw [Sweep.inFlight_of_ready hp]
      rcases hφ with rfl | ⟨w, rfl⟩ <;> rfl
  | stumble hs hp _ _ =>
      exact (h.launch _ _).fail (Steering.mem_of_sweep? hs) rfl (Sweep.inFlight_of_ready hp)
  | wake hs hp _ => exact h.put (Steering.mem_of_sweep? hs) rfl (by rw [hp]; rfl)
  | complete hs hp _ =>
      obtain ⟨n, hn⟩ := σ.publish_eq _
      rw [hn]
      exact (h.due n).conclude (Steering.mem_of_sweep? hs) (by rw [hp]; rfl) _
  | ping => exact ⟨h.valid, h.sweeps, h.timer⟩
  | endProbe =>
      refine ⟨h.valid, h.sweeps.map (fun s => ?_) (fun s => ?_), h.timer⟩
      · split <;> rfl
      · split <;> rfl
  -- A timer belongs to a census that has not been paused since, so it never stops by itself.
  | alarmOff hx _ hq => exact absurd (h.timer _ hx).2.2.1.symm hq
  | alarmSet hx _ _ _ _ => exact h.retime hx rfl (by simp) rfl
  | alarmBusy hx _ _ _ _ =>
      obtain ⟨n, hn⟩ := σ.planAhead_eq
      rw [hn]
      exact (h.due _).retime hx rfl (by simp) rfl
  | @alarmAsk x hx _ _ _ _ =>
      have hask : Orderly (σ.ask (some x.pauses)) := ⟨h.valid, h.sweeps.ask _ _, h.timer⟩
      exact hask.retime hx rfl (by simp) rfl
  | alarmRing hx _ _ => exact h.retime hx rfl (by simp) rfl
  | alarmFollow hx _ _ =>
      obtain ⟨n, hn⟩ := σ.planAhead_eq
      rw [hn]
      exact (h.due _).retime hx rfl (by simp) rfl
  | tickOff hx hq => exact absurd (h.timer _ hx).2.2.1.symm hq
  | tick hx _ => exact h.retime hx rfl (h.timer _ hx).2.2.2.1 rfl
  | pass => exact ⟨h.valid, h.sweeps, h.timer⟩

end Orderly

namespace Census

/-- A new census has done nothing yet. -/
theorem IsNew.eq_initial {c : Census} (hc : c.IsNew) :
    ∃ now o r, c = initial now o r ∧ o.IsValid := by
  obtain ⟨now, o, r, hc⟩ := hc
  unfold create at hc
  cases ho : o.check with
  | error x =>
      rw [ho] at hc
      cases hc
  | ok u =>
      rw [ho] at hc
      cases hc
      exact ⟨now, o, r, rfl, ho⟩

/-- A new census is in order. -/
theorem IsNew.orderly {c : Census} (hc : c.IsNew) : Orderly c.steering := by
  obtain ⟨now, o, r, rfl, ho⟩ := hc.eq_initial
  refine ⟨ho, ⟨?_, List.nodup_nil, ?_, ?_, ?_⟩, ?_⟩ <;> simp [steering, initial]

theorem Run.orderly {c d : Census} {h : List Step} (hr : Run c h d) (hc : Orderly c.steering) :
    Orderly d.steering := by
  induction hr with
  | start => exact hc
  | turn _ ht ih => exact ih.moves (take_moves ht)

end Census

end LanCensus
