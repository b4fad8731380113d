/-
# LanCensus.Proofs.Census.Overload -- options that pass the check and make a sweep fail

The check of options lets every number of probes at once pass but zero. There is a number above which
they cannot be managed, and a sweep finds out when it has marked the devices offline already: it fails
then, its end is not announced, and no device is probed.

`runs_safely_iff` says that valid options make no sweep fail in any other way. Whatever the answer to
the question for subnets and whatever happens meanwhile, a sweep runs to its end if it does not set out
or if its probes can be managed, and only then.
-/

import LanCensus.Proofs.Census.Muted
import LanCensus.Proofs.Census.Progress

namespace LanCensus

/-- What has been announced of a sweep that stands here, the latest in front. -/
def Sweep.Phase.signals : Phase → List Bool
  | .queued _ => []
  | .ended _ => [false, true]
  | _ => [true]

/-- Devices are written down without a signal. -/
theorem Records.settle_signals (R : Records) (a : Address) (now : Instant) (o : Outcome) :
    (R.settle a now o).signals = R.signals := by
  cases o with
  | missed =>
      cases hk : R.inventory.find? a with
      | some known =>
          rw [R.settle_missed_of_known now hk]
          rfl
      | none => rw [R.settle_missed_of_unknown now hk]
  | found | crashed => rfl

/-! ## Setting out, failing and ending -/

/-- The sweep that sets out is the one that is in flight. -/
theorem Deed.setsOut.of_inFlight {x : Deed} {s : Sweep} (hx : x.setsOut)
    (ho : Orderly x.before.steering) (hs : x.before.steering.sweep? s.id = some s)
    (hf : s.phase.inFlight = true) :
    s.phase = .listing ∧ x.before.pauses = s.pauses ∧
      ∃ names, x.turn = .list s.id (.ok names) ∧ Census.named names ≠ [] := by
  obtain ⟨u, names, hu, hp, ht, hn, hq⟩ := hx
  obtain rfl := ho.eq_of_inFlight hs hf hu (by rw [hp]; rfl)
  exact ⟨hp, hq, names, ht, hn⟩

namespace Census

variable {c e : Census} {s s' : Sweep} {t : Turn} {ps : List Probe} {R : Records}

/-- **`Advance.crashed_iff`** — if asking for the subnets does not fail, a sweep fails by setting out
with options that allow more probes at once than can be managed. -/
theorem Advance.crashed_iff (h : c.Advance s t ps s' R) (ho : Orderly c.steering)
    (hs : c.steering.sweep? s.id = some s) (hf : s.phase.inFlight = true)
    (hne : t ≠ .collapse s.id) :
    s'.phase = .crashed ↔
      Deed.setsOut ⟨c, t, e⟩ ∧ permitLimit < s.options.maxProbes.toNat := by
  have hsane : s.phase ≠ .crashed := Sweep.Phase.ne_of_inFlight hf rfl
  -- A turn that is not the answer to the question for subnets.
  have hother : s'.phase ≠ .crashed → (∀ id names, t ≠ .list id (.ok names)) →
      (s'.phase = .crashed ↔ Deed.setsOut ⟨c, t, e⟩ ∧ permitLimit < s.options.maxProbes.toNat) :=
    fun hp ht => iff_of_false hp fun hx => Deed.not_setsOut_of_turn (x := ⟨c, t, e⟩) ht hx.1
  cases h with
  | aside hno =>
      refine hother hsane ?_
      rintro id names rfl
      cases hno
  | remove | ping | endProbe => exact hother hsane (by simp)
  | halt _ _ hor =>
      refine iff_of_false (by simp) fun ⟨hx, _⟩ => ?_
      obtain ⟨-, hq, names, ht, hn⟩ := hx.of_inFlight ho hs hf
      obtain ⟨-, rfl⟩ := Turn.list.inj ht
      exact hor.elim hn fun hne => hne hq
  | @overload names hp _ hn hq hlim => exact iff_of_true rfl ⟨⟨s, names, hs, hp, rfl, hn, hq⟩, hlim⟩
  | setOut _ _ _ _ hlim => exact iff_of_false (by simp) fun hx => Nat.not_le.mpr hx.2 hlim
  | collapse => exact absurd rfl hne
  | await | stop | wake | complete => exact hother (by simp) (by simp)
  | dispatch _ _ _ _ hφ =>
      refine hother ?_ (by simp)
      rcases hφ with rfl | ⟨w, rfl⟩ <;> simp

/-- A turn leaves a sweep in flight where it stands, or leads it on. -/
theorem Advance.begun (h : c.Advance s t ps s' R) (hf : s.phase.inFlight = true) :
    s'.phase.inFlight = true ∨ s'.phase.isOver = true := by
  cases h with
  | aside | remove | ping | endProbe => exact .inl hf
  | halt | overload | collapse | complete => exact .inr rfl
  | setOut | await | stop | wake => exact .inl rfl
  | dispatch _ _ _ _ hφ => rcases hφ with rfl | ⟨w, rfl⟩ <;> exact .inl rfl

/-- A sweep does not ask for the subnets again, and it does not go on waiting if it sets out. -/
theorem Advance.waits (h : c.Advance s t ps s' R) (hp' : s'.phase = .listing) :
    s.phase = .listing ∧ ¬ Deed.setsOut ⟨c, t, e⟩ := by
  cases h with
  | aside hno =>
      refine ⟨hp', Deed.not_setsOut_of_turn ?_⟩
      rintro id names rfl
      cases hno
  | remove | ping | endProbe => exact ⟨hp', Deed.not_setsOut_of_turn (by simp)⟩
  | dispatch _ _ _ _ hφ => rcases hφ with rfl | ⟨w, rfl⟩ <;> cases hp'
  | _ => cases hp'

/-- A sweep that ends leaves no probes behind. -/
theorem Advance.done (h : c.Advance s t ps s' R) (hf : s.phase.inFlight = true) {l : List Device}
    (hp' : s'.phase = .ended l) : ps = [] := by
  have hgoes : s.phase ≠ .ended l := Sweep.Phase.ne_of_inFlight hf rfl
  cases h with
  | halt | complete => rfl
  | aside | remove | ping | endProbe => exact absurd hp' hgoes
  | dispatch _ _ _ _ hφ => rcases hφ with rfl | ⟨w, rfl⟩ <;> cases hp'
  | _ => cases hp'

/-- **`Advance.signals`** — a sweep announces its end when it ends, and nothing else. -/
theorem Advance.signals (h : c.Advance s t ps s' R) (hf : s.phase.inFlight = true) {S : List Bool}
    (hS : c.records.signals = s.phase.signals ++ S) : R.signals = s'.phase.signals ++ S := by
  have hin : s.phase.signals = [true] := by
    cases hp : s.phase with
    | queued | ended =>
        rw [hp] at hf
        cases hf
    | _ => rfl
  cases h with
  | aside | ping => exact hS
  | remove _ _ hsame => exact hsame.trans hS
  | endProbe => exact (c.records.settle_signals _ _ _).trans hS
  | halt | complete =>
      rw [hin] at hS
      exact congrArg (false :: ·) hS
  | overload | setOut | collapse | await | stop | wake =>
      rw [hin] at hS
      exact hS
  | dispatch _ _ _ _ hφ =>
      rw [hin] at hS
      rcases hφ with rfl | ⟨w, rfl⟩ <;> exact hS

/-! ## From the beginning to the end -/

/-- **`Fares S h c s`** — how the sweep has fared in the history `h`, before which the signals `S` had
been announced: what has been announced of it, that it fails exactly by setting out with too many
probes at once, and that it sets out only if no pause has overtaken it. -/
structure Fares (S : List Bool) (h : List Deed) (c : Census) (s : Sweep) : Prop where
  begun : s.phase.inFlight = true ∨ s.phase.isOver = true
  signals : c.records.signals = s.phase.signals ++ S
  waits : s.phase = .listing → ∀ x ∈ h, ¬ x.setsOut
  fails : s.phase = .crashed ↔ (∃ x ∈ h, x.setsOut) ∧ permitLimit < s.options.maxProbes.toNat
  done : ∀ l, s.phase = .ended l → c.probes = []
  level : (∃ x ∈ h, x.setsOut) → (∀ x ∈ h, x.turn.isPause = false) → c.pauses = s.pauses

theorem Fares.advance {S : List Bool} {h : List Deed} (hF : Fares S h c s) (hreg : c.IsRegular)
    (hs : c.steering.sweep? s.id = some s) (hf : s.phase.inFlight = true)
    (hne : t ≠ .collapse s.id) (ht : c.take t = some e)
    (hadv : c.Advance s t e.probes s' e.records) : Fares S (⟨c, t, e⟩ :: h) e s' where
  begun := hadv.begun hf
  signals := hadv.signals hf hF.signals
  done l hp := hadv.done hf hp
  waits hp := by
    obtain ⟨hp, hno⟩ := hadv.waits (e := e) hp
    exact List.forall_mem_cons.mpr ⟨hno, hF.waits hp⟩
  fails := by
    -- It has not failed before, so if it has set out before its probes can be managed.
    have hbefore : ¬ ((∃ x ∈ h, x.setsOut) ∧ permitLimit < s.options.maxProbes.toNat) := by
      rw [← hF.fails]
      exact Sweep.Phase.ne_of_inFlight hf rfl
    rw [hadv.crashed_iff (e := e) hreg.orderly hs hf hne, hadv.same.2.2, List.exists_mem_cons_iff,
      or_and_right, or_iff_left hbefore]
  level hout hquiet := by
    rw [List.forall_mem_cons] at hquiet
    rw [List.exists_mem_cons_iff] at hout
    rw [pauses_of_take ht hquiet.1, hadv.same.2.1]
    rcases hout with hx | hout
    · exact (hx.of_inFlight hreg.orderly hs hf).2.1
    · exact hF.level hout hquiet.2

/-- **`RunsSafely way S id h d`** — the sweep has come to its end: the end has been announced as the
beginning had been, after the signals `S`, and no probe is under way. If it had marked the devices
offline, and was not paused, it has dispatched the addresses `way`. -/
structure RunsSafely (way : List Address) (S : List Bool) (id : Nat) (h : List Deed) (d : Census) :
    Prop where
  ended : ∃ l, d.steering.phase? id = some (.ended l)
  signals : d.records.signals = false :: true :: S
  quiet : d.probes = []
  probed : (∃ x ∈ h, x.setsOut) → (∀ x ∈ h, x.turn.isPause = false) →
    dispatchedBy id (h.map Deed.step) = way

/-- How a sweep has fared decides whether it has run safely, once it is over. -/
theorem Fares.runsSafely_iff {way : List Address} {S : List Bool} {id : Nat} {h : List Deed}
    (hF : Fares S h c s) (hfound : c.steering.sweep? id = some s) (hover : ¬ c.InFlight id)
    (hroute : c.pauses = s.pauses → s.OnRoute way (dispatchedBy id (h.map Deed.step))) :
    RunsSafely way S id h c ↔
      ((∃ x ∈ h, x.setsOut) → s.options.maxProbes.toNat ≤ permitLimit) := by
  have hphase := Steering.phase?_of_sweep? hfound
  have hnot : ¬ s.phase.inFlight = true := fun hf => hover ⟨_, hphase, hf⟩
  have hdone : s.phase.isOver = true := hF.begun.resolve_left hnot
  constructor
  · intro hsafe hout
    obtain ⟨l, hl⟩ := hsafe.ended
    by_contra hlim
    have hcrashed := hF.fails.mpr ⟨hout, Nat.not_le.mp hlim⟩
    rw [hphase, hcrashed] at hl
    cases hl
  · intro hfits
    cases hp : s.phase with
    | ended l =>
        have hsignals := hF.signals
        rw [hp] at hsignals hphase
        refine ⟨⟨l, hphase⟩, hsignals, hF.done l hp, fun hout hquiet => ?_⟩
        have hway := hroute (hF.level hout hquiet)
        exact ((hway.crashed_or_ended hnot).resolve_left (by simp [hp])).2
    | crashed =>
        obtain ⟨hout, hlim⟩ := hF.fails.mp hp
        exact absurd (hfits hout) (Nat.not_le.mpr hlim)
    | _ =>
        rw [hp] at hdone
        cases hdone

section

variable {c₀ b d : Census} {id : Nat} {h : List Deed} {s₀ : Sweep}
  {answer : Except SubnetError (List String)} {ok : Address → Outcome → Prop}

theorem Voyage.fares (hv : Voyage id answer ok b h d) (hb : b.IsRegular)
    (hs : b.steering.sweep? id = some s₀) (hp : s₀.phase = .listing) {S : List Bool}
    (hS : b.records.signals = true :: S) :
    ∃ s, d.steering.sweep? id = some s ∧ s.options = s₀.options ∧ Fares S h d s := by
  have hstart : Fares S [] b s₀ := by
    refine ⟨.inl (by rw [hp]; rfl), ?_, fun _ x hx => (by cases hx), ?_, fun l hl => ?_, ?_⟩
    · rw [hS, hp]
      rfl
    · simp [hp]
    · cases hp.symm.trans hl
    · rintro ⟨x, hx, -⟩
      cases hx
  have hend := hv.story.follow (P := Fares S) hb hs hstart ?_ hv.inFlight hv.keeps
  · obtain ⟨s, hfound, -, hoptions, hF⟩ := hend
    exact ⟨s, hfound, hoptions, hF⟩
  · rintro h c e t s s' hreg ⟨rfl, -, -⟩ hfound hf hF hkeeps ht hadv
    refine hF.advance hreg hfound hf ?_ ht hadv
    rintro rfl
    exact hkeeps

/-- **`runs_safely_iff`** — a sweep begins, with options that passed the check as all options in force
have; neither the question for subnets nor a probe fails. Whatever else happens, the sweep takes a
bounded number of turns and can always go on until it is over, and then it has run safely exactly if it
did not set out or if as many probes at once as it may have can be managed. -/
theorem runs_safely_iff (hc : c₀.IsNew) (hr : Reaches c₀ c) (hidle : c.sweeping = false)
    (hembark : c.take (.embark id) = some b)
    (hv : Voyage id answer (fun _ o => o ≠ .crashed) b h d) :
    c.options.IsValid ∧
      h.countP (·.turn.isWork) ≤ 5 * (c.options.itinerary answer).length + 4 ∧
      (d.InFlight id → d.CanGoOn answer fun _ o => o ≠ .crashed) ∧
      (¬ d.InFlight id →
        (RunsSafely (c.options.itinerary answer) c.records.signals id h d ↔
          ((∃ x ∈ h, x.setsOut) → c.options.maxProbes.toNat ≤ permitLimit))) := by
  have hcreg := (IsRegular.of_isNew hc).reaches hr
  have hreg : b.IsRegular := hcreg.take hembark
  obtain ⟨hrecords, p, s₀, -, hs, hp, -, ho⟩ := listing_of_embark hidle hembark
  have hle : s₀.pauses ≤ b.pauses := by
    refine (hr.step hembark).dated hc s₀ (Steering.mem_of_sweep? hs) (by rw [hp]; rfl) _ ?_
    rw [Sweep.epoch, hp]
  have hends := hv.ends hreg hs hp fun a => ⟨.missed, by simp⟩
  obtain ⟨s, hfound, -, hroute⟩ := hv.onRoute hreg hs hp hle rfl
  obtain ⟨s', hfound', hoptions, hF⟩ :=
    hv.fares hreg hs hp (S := c.records.signals) (by rw [hrecords]; rfl)
  obtain rfl := Option.some.inj (hfound.symm.trans hfound')
  have hsafe := fun hover => hF.runsSafely_iff hfound hover hroute
  rw [ho] at hends hsafe
  rw [hoptions, ho] at hsafe
  exact ⟨hcreg.orderly.valid, hends.1, hends.2, hsafe⟩

end

/-- A small census that may have `n` probes under way at once, and knows a device that was online when
its record was saved. -/
def wide (n : UInt64) : Census :=
  initial ⟨0, 0⟩ { smallOptions false with maxProbes := n }
    (Inventory.empty.restore [.answering ⟨192, 168, 1, 1⟩ ⟨0, 0⟩ .zero])

/-- With as many probes at once as can just be managed, the sweep runs to its end. -/
theorem wide_runs_safely :
    ∃ b d, ((wide permitLimit.toUInt64).requestSweep none).take (.embark 0) = some b ∧
      Voyage 0 (.ok ["192.168.1"]) (fun _ o => o ≠ .crashed) b (b.chronicle (smallSweep 0 1)) d ∧
      RunsSafely [⟨192, 168, 1, 1⟩] [] 0 (b.chronicle (smallSweep 0 1)) d := by
  let c := (wide permitLimit.toUInt64).requestSweep none
  have hcheck : (c.take (.embark 0)).any (fun b => (b.replay (smallSweep 0 1)).any fun d =>
      decide (¬ d.InFlight 0 ∧ ∀ x ∈ b.chronicle (smallSweep 0 1), x.before.InFlight 0 ∧
        x.turn.Keeps (.ok ["192.168.1"]) (fun _ o => o ≠ .crashed) x.before)) = true := by
    decide +kernel
  obtain ⟨b, hb, hcheck⟩ := (Option.any_eq_true _ _).mp hcheck
  obtain ⟨d, hd, hcheck⟩ := (Option.any_eq_true _ _).mp hcheck
  obtain ⟨hover, hdeeds⟩ := of_decide_eq_true hcheck
  have hnew : (wide permitLimit.toUInt64).IsNew :=
    ⟨⟨0, 0⟩, { smallOptions false with maxProbes := permitLimit.toUInt64 }, _, rfl⟩
  have hr : Reaches (wide permitLimit.toUInt64) c := .step (t := .requestSweep) .refl rfl
  have hv : Voyage 0 (.ok ["192.168.1"]) (fun _ o => o ≠ .crashed) b
      (b.chronicle (smallSweep 0 1)) d :=
    ⟨story_of_replay hd, fun x hx => (hdeeds x hx).1, fun x hx => (hdeeds x hx).2⟩
  have hsafe := runs_safely_iff hnew hr rfl hb hv
  exact ⟨b, d, hb, hv, (hsafe.2.2.2 hover).mpr fun _ => by decide⟩

/-- The same census with one more probe at once. -/
def tooWide : Census := wide (permitLimit.toUInt64 + 1)

/-- **`too_many_probes`** — the options pass the check, but the sweep fails: its end is not announced,
the device is marked offline, and nothing has been probed. -/
theorem too_many_probes :
    tooWide.options.IsValid ∧
      ∃ d, tooWide.replay [.requestSweep, .embark 0, .list 0 (.ok ["192.168.1"])] = some d ∧
        d.steering.phase? 0 = some .crashed ∧ d.records.signals = [true] ∧
        d.inventory ≠ tooWide.inventory ∧ d.inventory = tooWide.inventory.allOffline ∧
        d.dispatched = 0 := by
  refine ⟨by decide, ?_⟩
  have hd : (tooWide.replay [.requestSweep, .embark 0, .list 0 (.ok ["192.168.1"])]).any (fun d =>
      decide (d.steering.phase? 0 = some .crashed ∧ d.records.signals = [true] ∧
        d.inventory ≠ tooWide.inventory ∧ d.inventory = tooWide.inventory.allOffline ∧
        d.dispatched = 0)) = true := by
    decide +kernel
  obtain ⟨d, hd, hp⟩ := (Option.any_eq_true _ _).mp hd
  exact ⟨d, hd, of_decide_eq_true hp⟩

end Census

end LanCensus
