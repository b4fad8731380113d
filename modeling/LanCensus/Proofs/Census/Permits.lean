/-
# LanCensus.Proofs.Census.Permits -- how many probes are under way

A sweep sets out with as many permits as its options allow probes at once. A probe takes one when it is
dispatched and gives it back when it ends, whether it ends well or fails. So permits are neither made nor
lost (`Conserved`): those that are free and the probes under way make up the number the sweep set out
with, whatever has become of the options in force since.

The options of a sweep are those that were in force when it began. That is remembered in the history
(`begun_of_inFlight`), and joins the count in `probes_bounded`.
-/

import LanCensus.Proofs.Census.PauseSafety

namespace LanCensus

open Steering

/-! ## Permits and probes -/

/-- **`Conserved σ`** — the free permits of a sweep that has set out and the probes under way make up the
number of probes that its options allow at once. -/
def Conserved (σ : Steering) : Prop :=
  ∀ s ∈ σ.sweeps, s.phase.hasSetOut = true →
    s.permits + σ.probes.length = s.options.maxProbes.toNat

/-- The probe that ends is one of those under way, and one only. -/
theorem Numbered.length_filter_ne {σ : Steering} {p : Probe} (hn : Numbered σ) (hp : p ∈ σ.probes) :
    (σ.probes.filter (·.id ≠ p.id)).length + 1 = σ.probes.length := by
  have hone : σ.probes.countP (·.id = p.id) = 1 := by
    have hcount := List.count_eq_one_of_mem hn.distinct (List.mem_map_of_mem hp)
    rw [List.count, List.countP_map] at hcount
    rw [← hcount]
    exact List.countP_congr fun q _ => by simp
  have hsum := List.length_eq_countP_add_countP (fun q : Probe => decide (q.id = p.id)) (l := σ.probes)
  rw [hone] at hsum
  rw [← List.countP_eq_length_filter, hsum, Nat.add_comm]
  exact congrArg (1 + ·) (List.countP_congr fun q _ => by simp)

namespace Conserved

variable {σ τ υ : Steering} {t : Turn} {s s' : Sweep}

/-- A sweep gives its place to one that has not set out, or for which the count is right. -/
theorem put (h : Conserved σ) (hυ : υ.sweeps = σ.sweeps) (hps : υ.probes = σ.probes)
    (hs' : s'.phase.hasSetOut = true →
      s'.permits + σ.probes.length = s'.options.maxProbes.toNat) : Conserved (υ.put s') := by
  intro u hu hset
  show u.permits + υ.probes.length = _
  rw [hps]
  rcases mem_put hu with rfl | ⟨hu, -⟩
  · exact hs' hset
  · exact h u (hυ ▸ hu) hset

/-- A sweep that has set out goes on with as many permits. -/
theorem put_same (h : Conserved σ) (hs : s ∈ σ.sweeps) (hset : s.phase.hasSetOut = true)
    (hpermits : s'.permits = s.permits) (hoptions : s'.options = s.options) :
    Conserved (σ.put s') := by
  refine h.put rfl rfl fun _ => ?_
  rw [hpermits, hoptions]
  exact h s hs hset

/-- A sweep in flight gives its place to another, and no other sweep has set out. -/
theorem put_inFlight (ho : Orderly σ) (hυ : υ.sweeps = σ.sweeps) (hs : s ∈ σ.sweeps)
    (hf : s.phase.inFlight = true) (hid : s'.id = s.id)
    (hs' : s'.phase.hasSetOut = true →
      s'.permits + υ.probes.length = s'.options.maxProbes.toNat) : Conserved (υ.put s') := by
  intro u hu hset
  rcases mem_put hu with rfl | ⟨hu, hne⟩
  · exact hs' hset
  · have he := ho.sweeps.alone u (hυ ▸ hu) s hs (Sweep.Phase.inFlight_of_hasSetOut hset) hf
    rw [he, hid] at hne
    exact absurd rfl hne

theorem ask (h : Conserved σ) (p : Option Nat) : Conserved (σ.ask p) := by
  intro s hs hset
  rcases List.mem_cons.mp hs with rfl | hs
  · cases hset
  · exact h s hs hset

/-- A probe that ends gives its permit back to the sweep it belongs to. -/
theorem release (h : Conserved σ) (ho : Orderly σ) (hsupp : Supplied σ) (hn : Numbered σ)
    {p : Probe} (hp : p ∈ σ.probes) (b : Bool) : Conserved (σ.release p b) := by
  intro v hv hset
  obtain ⟨u, hu, rfl⟩ := List.mem_map.mp hv
  obtain ⟨w, hw, hwp, hwset⟩ := hsupp.belong p hp
  have hlength := hn.length_filter_ne hp
  by_cases he : u.id = p.sweep
  · rw [if_pos he] at hset ⊢
    have hu := h u hu hset
    show u.permits + 1 + (σ.probes.filter (·.id ≠ p.id)).length = u.options.maxProbes.toNat
    omega
  · -- Two sweeps would have set out: this one, and the one that the probe belongs to.
    rw [if_neg he] at hset
    refine absurd ?_ he
    rw [← hwp, ho.sweeps.alone u hu w hw (Sweep.Phase.inFlight_of_hasSetOut hset)
      (Sweep.Phase.inFlight_of_hasSetOut hwset)]

/-- **`Conserved.moves`** — no turn makes or loses a permit. -/
theorem moves (h : Conserved σ) (ho : Orderly σ) (hsupp : Supplied σ) (hn : Numbered σ)
    (hm : Moves σ t τ) : Conserved τ := by
  cases hm with
  | keepArmed | armTimer | pause | refuse | adopt | disband | remove | lookUp | endLookup
  | alarmOff | alarmSet | alarmRing | tickOff | tick | pass => exact h
  | alarmBusy | alarmFollow =>
      obtain ⟨n, hn⟩ := σ.planAhead_eq
      rw [hn]
      exact h
  | armOnce | request | alarmAsk => exact h.ask _
  | turnAway | embark | abort | callOff => exact h.put rfl rfl nofun
  | overload hs hp | collapse hs hp =>
      exact put_inFlight ho rfl (mem_of_sweep? hs) (by rw [hp]; rfl) rfl nofun
  | stumble hs hp =>
      exact put_inFlight ho rfl (mem_of_sweep? hs) (Sweep.inFlight_of_ready hp) rfl nofun
  -- The sweep has no probes yet, and all its permits.
  | setOut hs hp =>
      refine put_inFlight ho rfl (mem_of_sweep? hs) (by rw [hp]; rfl) rfl fun _ => ?_
      rw [hsupp.probes_of_listing ho hs hp]
      rfl
  | await hs hp | wake hs hp =>
      exact h.put_same (mem_of_sweep? hs) (by rw [hp]; rfl) rfl rfl
  | stop hs hp =>
      refine h.put_same (mem_of_sweep? hs) ?_ rfl rfl
      rcases hp with hp | hp <;> rw [hp] <;> rfl
  | @dispatch s x rest φ hs hp _ _ hpos =>
      have hset : s.phase.hasSetOut = true := by rcases hp with hp | hp <;> rw [hp] <;> rfl
      have hcount := h s (mem_of_sweep? hs) hset
      refine put_inFlight ho (υ := σ.launch s x) rfl (mem_of_sweep? hs)
        (Sweep.inFlight_of_ready hp) rfl fun _ => ?_
      show s.permits - 1 + (σ.probes ++ [_]).length = s.options.maxProbes.toNat
      rw [List.length_append, List.length_singleton]
      omega
  | complete =>
      obtain ⟨n, hn⟩ := σ.publish_eq _
      rw [hn]
      exact h.put rfl rfl nofun
  | ping =>
      intro u hu hset
      show u.permits + (σ.probes.map _).length = _
      rw [List.length_map]
      exact h u hu hset
  | endProbe hp => exact h.release ho hsupp hn (List.mem_of_find?_eq_some hp) _

end Conserved

/-! ## The options of a sweep -/

/-- The sweep began with the turn, and took over the options that were in force. -/
def Step.begins (x : Step) (s : Sweep) : Prop :=
  x.turn = .embark s.id ∧ x.before.sweeping = false ∧ x.before.options = s.options

/-- **`Moves.begins_or_kept`** — a sweep in flight has just begun, or it was in flight before with the
same options. -/
theorem Moves.begins_or_kept {σ τ : Steering} {t : Turn} (hm : Moves σ t τ) {s' : Sweep}
    (hs' : s' ∈ τ.sweeps) (hf : s'.phase.inFlight = true) :
    (Step.mk σ t τ).begins s' ∨
      ∃ s ∈ σ.sweeps, s.phase.inFlight = true ∧ s.id = s'.id ∧ s.options = s'.options := by
  have hkept : s' ∈ σ.sweeps →
      ∃ s ∈ σ.sweeps, s.phase.inFlight = true ∧ s.id = s'.id ∧ s.options = s'.options :=
    fun h => ⟨s', h, hf, rfl, rfl⟩
  have hask : ∀ {υ : Steering} {p : Option Nat}, υ.sweeps = σ.sweeps → s' ∈ (υ.ask p).sweeps →
      s' ∈ σ.sweeps := by
    intro υ p hυ hs'
    rcases List.mem_cons.mp hs' with rfl | hs'
    · cases hf
    · exact hυ ▸ hs'
  -- A sweep gives its place to itself, and the options stay.
  have hput : ∀ {υ : Steering} {u u' : Sweep}, υ.sweeps = σ.sweeps → s' ∈ (υ.put u').sweeps →
      σ.sweep? u.id = some u → u'.id = u.id → u'.options = u.options →
      (u'.phase.inFlight = true → u.phase.inFlight = true) →
      ∃ s ∈ σ.sweeps, s.phase.inFlight = true ∧ s.id = s'.id ∧ s.options = s'.options := by
    intro υ u u' hυ hs' hu hid hoptions hphase
    rcases mem_put hs' with rfl | ⟨hs', -⟩
    · exact ⟨u, mem_of_sweep? hu, hphase hf, hid.symm, hoptions.symm⟩
    · exact hkept (hυ ▸ hs')
  cases hm with
  | keepArmed | armTimer | pause | refuse | adopt | disband | remove | lookUp | endLookup | ping
  | alarmOff | alarmSet | alarmRing | tickOff | tick | pass => exact .inr (hkept hs')
  | alarmBusy | alarmFollow =>
      obtain ⟨n, hn⟩ := σ.planAhead_eq
      rw [hn] at hs'
      exact .inr (hkept hs')
  | armOnce => exact .inr (hkept (hask (υ := { σ with armed := true }) rfl hs'))
  | request | alarmAsk => exact .inr (hkept (hask (υ := σ) rfl hs'))
  | embark _ _ hb =>
      rcases mem_put hs' with rfl | ⟨hs', -⟩
      · exact .inl ⟨rfl, hb, rfl⟩
      · exact .inr (hkept hs')
  | turnAway hs | abort hs | callOff hs => exact .inr (hput (υ := σ) rfl hs' hs rfl rfl nofun)
  | overload hs | collapse hs | stumble hs =>
      exact .inr (hput (υ := σ) rfl hs' hs rfl rfl nofun)
  | setOut hs hp | await hs hp | wake hs hp =>
      exact .inr (hput (υ := σ) rfl hs' hs rfl rfl fun _ => by rw [hp]; rfl)
  | stop hs hp | dispatch hs hp =>
      exact .inr (hput (υ := σ) rfl hs' hs rfl rfl fun _ => Sweep.inFlight_of_ready hp)
  | complete hs =>
      obtain ⟨n, hn⟩ := σ.publish_eq _
      rw [hn] at hs'
      exact .inr (hput (υ := σ) rfl hs' hs rfl rfl nofun)
  | endProbe =>
      obtain ⟨u, hu, rfl⟩ := List.mem_map.mp hs'
      refine .inr ⟨u, hu, ?_⟩
      split at hf <;> split <;> exact ⟨hf, rfl, rfl⟩

namespace Census

variable {c d : Census} {h : List Step}

/-- The history tells when a sweep in flight began. -/
theorem Run.begun_of_inFlight (hr : Run c h d) (hc : c.IsNew) :
    ∀ s ∈ d.sweeps, s.phase.inFlight = true → ∃ x ∈ h, x.begins s := by
  induction hr with
  | start =>
      obtain ⟨now, o, r, rfl, -⟩ := hc.eq_initial
      intro s hs
      cases hs
  | turn _ ht ih =>
      intro s' hs' hf
      rcases (take_moves ht).begins_or_kept hs' hf with hbegins | ⟨s, hs, hfs, hid, hoptions⟩
      · exact ⟨_, List.mem_cons_self, hbegins⟩
      · obtain ⟨x, hx, hturn, hidle, ho⟩ := ih s hs hfs
        exact ⟨x, List.mem_cons_of_mem _ hx, hid ▸ hturn, hidle, hoptions ▸ ho⟩

theorem Run.conserved (hr : Run c h d) (hc : c.IsNew) : Conserved d.steering := by
  induction hr with
  | start =>
      obtain ⟨now, o, r, rfl, -⟩ := hc.eq_initial
      intro s hs
      cases hs
  | turn hr ht ih =>
      have hreg := (IsRegular.of_isNew hc).reaches hr.reaches
      exact ih.moves hreg.orderly hreg.supplied hreg.numbered (take_moves ht)

/-- **`probes_bounded`** — whatever happens to the options and to the probes, there are no probes under
way while no sweep is in flight. While one is, all probes belong to it; together with its free permits
they are as many as the options allow at once that were in force when it began, so they are never
more. -/
theorem probes_bounded (hc : c.IsNew) (hr : Run c h d) :
    (d.sweeping = false ∧ d.probes = []) ∨
      ∃ s ∈ d.sweeps, s.phase.inFlight = true ∧ (∃ x ∈ h, x.begins s) ∧
        (∀ p ∈ d.probes, p.sweep = s.id) ∧
        (s.phase.hasSetOut = true →
          s.permits + d.probes.length = s.options.maxProbes.toNat) ∧
        d.probes.length ≤ s.options.maxProbes.toNat := by
  have hreg := (IsRegular.of_isNew hc).reaches hr.reaches
  have hcount := hr.conserved hc
  cases hb : d.sweeping with
  | false =>
      refine .inl ⟨rfl, List.eq_nil_iff_forall_not_mem.mpr fun p hp => ?_⟩
      obtain ⟨s, hs, -, hset⟩ := hreg.supplied.belong p hp
      have hbusy := hreg.orderly.sweeps.busy_of s hs (Sweep.Phase.inFlight_of_hasSetOut hset)
      cases hb.symm.trans hbusy
  | true =>
      obtain ⟨s, hs, hf⟩ := hreg.orderly.sweeps.exists_of hb
      have hfound := hreg.orderly.sweep?_of_mem hs
      refine .inr ⟨s, hs, hf, hr.begun_of_inFlight hc s hs hf,
        fun p hp => hreg.supplied.sweep_eq hreg.orderly hfound hf hp, hcount s hs, ?_⟩
      cases hset : s.phase.hasSetOut with
      | true => exact Nat.le.intro ((Nat.add_comm _ _).trans (hcount s hs hset))
      | false =>
          have hnil : d.probes = [] := hreg.supplied.probes_eq_nil hreg.orderly hfound hf
            (hreg.supplied.no_probes hreg.orderly hs hset)
          rw [hnil]
          exact Nat.zero_le _

/-- The options come to allow five probes at once while a sweep is in flight that began with one. It waits
for its permit. -/
theorem couple_probes_bounded :
    let more : Sweep.Options := { couple.options with maxProbes := 5 }
    ∃ d, couple.replay (coupleHalf ++ [.setOptions more, .proceed 0]) = some d ∧
      d.options = more ∧ d.steering.phase? 0 = some .waiting ∧ d.probes.length = 1 ∧
      ∃ s ∈ d.sweeps, s.phase.inFlight = true ∧ d.probes.length ≤ s.options.maxProbes.toNat := by
  intro more
  have hcheck : (couple.replay (coupleHalf ++ [.setOptions more, .proceed 0])).any (fun d =>
      decide (d.sweeping = true ∧ d.options = more ∧ d.steering.phase? 0 = some .waiting ∧
        d.probes.length = 1)) = true := by
    decide +kernel
  obtain ⟨d, hd, hp⟩ := (Option.any_eq_true _ _).mp hcheck
  obtain ⟨hbusy, hoptions, hwaits, hprobes⟩ := of_decide_eq_true hp
  refine ⟨d, hd, hoptions, hwaits, hprobes, ?_⟩
  rcases probes_bounded couple_isNew (run_of_replay hd) with ⟨hidle, -⟩ | ⟨s, hs, hf, -, -, -, hle⟩
  · cases hidle.symm.trans hbusy
  · exact ⟨s, hs, hf, hle⟩

end Census

end LanCensus
