/-
# LanCensus.Proofs.Census.Course -- the course of control

Whether sweeps go on is settled by the options, the flag that something is armed, the deadline and
the timer. Few turns touch them. `Course` sorts the turns by what they do to these and to the sweep
in flight: requests that change something, the ends of sweeps, the turns of the timer, and all the
rest, after which everything stands as before. `Moves.course` is the proof that every turn is of one
of these kinds.
-/

import LanCensus.Proofs.Census.Order

namespace LanCensus

namespace Steering

variable {σ : Steering}

/-! ## Sweeps by number -/

/-- Changes that leave the numbers alone are made to the sweep that is found. -/
theorem find?_map_id {f : Sweep → Sweep} (hf : ∀ s, (f s).id = s.id) (ss : List Sweep) (id : Nat) :
    (ss.map f).find? (·.id == id) = (ss.find? (·.id == id)).map f := by
  rw [List.find?_map, show ((·.id == id) ∘ f) = (·.id == id) from funext fun s => by simp [hf]]

theorem sweep?_put (σ : Steering) (s : Sweep) (id : Nat) :
    (σ.put s).sweep? id = (σ.sweep? id).map fun t => if t.id = s.id then s else t := by
  refine find?_map_id (fun t => ?_) _ _
  split
  · next h => exact h.symm
  · rfl

theorem sweep?_put_self {s s' : Sweep} (hs : σ.sweep? s.id = some s) (hid : s'.id = s.id) :
    (σ.put s').sweep? s.id = some s' := by
  rw [sweep?_put, hs, Option.map_some, if_pos hid.symm]

theorem sweep?_put_of_ne {s : Sweep} {id : Nat} (hne : id ≠ s.id) :
    (σ.put s).sweep? id = σ.sweep? id := by
  rw [sweep?_put]
  cases hs : σ.sweep? id with
  | none => rfl
  | some u =>
      rw [Option.map_some, if_neg]
      rw [id_of_sweep? hs]
      exact hne

theorem sweep?_ask_of_ne {id : Nat} (hne : id ≠ σ.fresh) (p : Option Nat) :
    (σ.ask p).sweep? id = σ.sweep? id :=
  List.find?_cons_of_neg (by simpa [Sweep.queued] using hne.symm)

theorem phase?_of_sweep? {id : Nat} {s : Sweep} (hs : σ.sweep? id = some s) :
    σ.phase? id = some s.phase := by
  rw [phase?, hs]
  rfl

theorem mem_of_phase? {id : Nat} {φ : Sweep.Phase} (hp : σ.phase? id = some φ) :
    ∃ s ∈ σ.sweeps, s.id = id ∧ s.phase = φ := by
  obtain ⟨s, hs, rfl⟩ := Option.map_eq_some_iff.mp hp
  exact ⟨s, mem_of_sweep? hs, id_of_sweep? hs, rfl⟩

theorem phase?_release (σ : Steering) (p : Probe) (b : Bool) (id : Nat) :
    (σ.release p b).phase? id = σ.phase? id := by
  rw [phase?, sweep?, release, find?_map_id, Option.map_map]
  · refine congrArg (Option.map · (σ.sweep? id)) (funext fun s => ?_)
    rw [Function.comp_apply]
    split <;> rfl
  · intro s
    split <;> rfl

/-! ## Sweeps that go on -/

/-- Every sweep in flight in `σ` is in flight in `τ`. -/
def GoesOn (σ τ : Steering) : Prop :=
  ∀ id φ, σ.phase? id = some φ → φ.inFlight = true → ∃ ψ, τ.phase? id = some ψ ∧ ψ.inFlight = true

/-- A sweep is in flight, or has been asked for and will have its turn. -/
def IsBusy (σ : Steering) : Prop := σ.sweeping = true ∨ ∃ s ∈ σ.sweeps, s.phase.isQueued = true

theorem GoesOn.of_phases {τ : Steering} (h : ∀ id, τ.phase? id = σ.phase? id) : σ.GoesOn τ :=
  fun id φ hp hf => ⟨φ, (h id).trans hp, hf⟩

theorem GoesOn.put {s s' : Sweep} (hs : σ.sweep? s.id = some s) (hid : s'.id = s.id)
    (hf : s.phase.inFlight = true → s'.phase.inFlight = true) : σ.GoesOn (σ.put s') := by
  intro id φ hp hφ
  by_cases he : id = s.id
  · subst he
    rw [phase?_of_sweep? hs] at hp
    cases hp
    exact ⟨s'.phase, phase?_of_sweep? (sweep?_put_self hs hid), hf hφ⟩
  · refine ⟨φ, ?_, hφ⟩
    rw [phase?, sweep?_put_of_ne (hid ▸ he)]
    exact hp

end Steering

namespace Orderly

open Steering

variable {σ : Steering}

theorem goesOn_ask (h : Orderly σ) (p : Option Nat) : σ.GoesOn (σ.ask p) := by
  intro id φ hp hf
  obtain ⟨s, hs, rfl, -⟩ := mem_of_phase? hp
  refine ⟨φ, ?_, hf⟩
  rw [phase?, sweep?_ask_of_ne (Nat.ne_of_lt (h.sweeps.below s hs))]
  exact hp

/-- Only one sweep is in flight. -/
theorem phase?_inFlight (h : Orderly σ) {s : Sweep} (hs : σ.sweep? s.id = some s)
    (hf : s.phase.inFlight = true) {id : Nat} {φ : Sweep.Phase} (hp : σ.phase? id = some φ)
    (hφ : φ.inFlight = true) : id = s.id ∧ φ = s.phase := by
  obtain ⟨u, hu, rfl, rfl⟩ := mem_of_phase? hp
  rw [h.sweeps.alone u hu s (mem_of_sweep? hs) hφ hf]
  exact ⟨rfl, rfl⟩

end Orderly

/-! ## Kinds of turns -/

/-- Whether a turn may change what is armed, the options or the alarm: a start while nothing is
armed, a pause, other options that describe a sweep, or the timer's own turn. -/
def Turn.Steers (σ : Steering) : Turn → Prop
  | .start | .resume => σ.armed = false
  | .pause | .alarm => True
  | .setOptions o => o.IsValid
  | _ => False

/-- **`Agree σ τ`** — the options, the pauses, what is armed and when the next sweep is due are the
same. -/
structure Steering.Agree (σ τ : Steering) : Prop where
  options : τ.options = σ.options
  pauses : τ.pauses = σ.pauses
  armed : τ.armed = σ.armed
  nextSweep : τ.nextSweep = σ.nextSweep

/-- **`Course σ t τ`** — the kinds of turns that lead from `σ` to `τ`. -/
inductive Course (σ : Steering) : Turn → Steering → Prop
  | armTimer {t : Turn} : t.isStart = true → σ.armed = false → σ.options.continuous = true →
      Course σ t
        { σ with armed := true, nextSweep := none, timer := some ⟨σ.pauses, .ringing, none, true⟩ }
  | armOnce {t : Turn} : t.isStart = true → σ.armed = false → σ.options.continuous = false →
      Course σ t (({ σ with armed := true }).ask (some σ.pauses))
  | pause : Course σ .pause { σ.unarm with pauses := σ.pauses + 1 }
  | adopt {o : Sweep.Options} : o.IsValid → o.continuous = true →
      Course σ (.setOptions o) { σ with options := o }
  | disband {o : Sweep.Options} : o.IsValid → o.continuous = false →
      Course σ (.setOptions o) { σ.unarm with options := o }
  | halt {s : Sweep} {names : Except SubnetError (List String)} {l : List Device} :
      σ.sweep? s.id = some s → s.phase = .listing → Course σ (.list s.id names) (σ.conclude s l)
  | complete {s : Sweep} {l : List Device} : σ.sweep? s.id = some s → s.phase = .draining →
      Course σ (.proceed s.id) ((σ.publish s).conclude s l)
  | fail {t : Turn} {s : Sweep} {τ : Steering} : σ.sweep? s.id = some s →
      s.phase.inFlight = true → τ.phase? s.id = some .crashed → ¬ t.Steers σ → σ.Agree τ →
      τ.timer = σ.timer → Course σ t τ
  | alarm {x y : Timer} {τ : Steering} : σ.timer = some x → τ.timer = some y →
      τ.options = σ.options → τ.armed = σ.armed →
      (σ.nextSweep.isSome = true → τ.nextSweep.isSome = true) →
      (∀ w, y.alarm = .set w → τ.nextSweep = some w) → σ.GoesOn τ → Course σ .alarm τ
  | tick {x y : Timer} : σ.timer = some x → y.alarm = x.alarm →
      Course σ .tick { σ with timer := some y }
  | rest {t : Turn} {τ : Steering} : ¬ t.Steers σ → σ.Agree τ → τ.timer = σ.timer →
      σ.GoesOn τ → (σ.IsBusy → τ.IsBusy) → Course σ t τ

namespace Steering

variable {σ τ : Steering} {t : Turn}

theorem busy_of_inFlight (h : Orderly σ) {s : Sweep} (hs : σ.sweep? s.id = some s)
    (hf : s.phase.inFlight = true) : σ.sweeping = true :=
  h.sweeps.busy_of s (mem_of_sweep? hs) hf

/-- A turn that leaves control and the sweeps alone. -/
theorem course_still (hn : ¬ t.Steers σ) (ha : σ.Agree τ) (ht : τ.timer = σ.timer)
    (hs : τ.sweeps = σ.sweeps) (hb : τ.sweeping = σ.sweeping) : Course σ t τ := by
  refine .rest hn ha ht (GoesOn.of_phases fun id => ?_) ?_
  · rw [phase?, sweep?, hs]
    rfl
  · rw [IsBusy, IsBusy, hs, hb]
    exact id

/-- A sweep in flight goes from one phase to another. -/
theorem course_put (h : Orderly σ) (hn : ¬ t.Steers σ) {s s' : Sweep}
    (hs : σ.sweep? s.id = some s) (hid : s'.id = s.id) (hf : s.phase.inFlight = true)
    (hf' : s'.phase.inFlight = true) : Course σ t (σ.put s') := by
  have hb := busy_of_inFlight h hs hf
  exact .rest hn ⟨rfl, rfl, rfl, rfl⟩ rfl (GoesOn.put hs hid fun _ => hf') fun _ => .inl hb

theorem phase?_fail {υ : Steering} (hυ : υ.sweeps = σ.sweeps) {s s' : Sweep}
    (hs : σ.sweep? s.id = some s) (hid : s'.id = s.id) :
    (υ.fail s').phase? s.id = some .crashed := by
  have hsυ : υ.sweep? s.id = some s := by
    rw [sweep?, hυ]
    exact hs
  have hc : (υ.fail s').sweep? s.id = some { s' with phase := .crashed } :=
    sweep?_put_self hsυ hid
  exact phase?_of_sweep? hc

/-- A sweep in flight fails. -/
theorem course_fail (hn : ¬ t.Steers σ) {υ : Steering} (hυ : υ.sweeps = σ.sweeps)
    (ha : σ.Agree υ) (ht : υ.timer = σ.timer) {s s' : Sweep} (hs : σ.sweep? s.id = some s)
    (hid : s'.id = s.id) (hf : s.phase.inFlight = true) : Course σ t (υ.fail s') :=
  .fail hs hf (phase?_fail hυ hs hid) hn ⟨ha.options, ha.pauses, ha.armed, ha.nextSweep⟩ ht

end Steering

open Steering in
/-- **`Moves.course`** — every turn is of one of the kinds of `Course`. -/
theorem Moves.course {σ τ : Steering} {t : Turn} (h : Orderly σ) (hm : Moves σ t τ) :
    Course σ t τ := by
  cases hm with
  | keepArmed ht ha =>
      refine course_still ?_ ⟨rfl, rfl, rfl, rfl⟩ rfl rfl rfl
      intro hs
      cases t <;> simp_all [Turn.Steers, Turn.isStart]
  | armTimer ht ha ho => exact .armTimer ht ha ho
  | armOnce ht ha ho => exact .armOnce ht ha ho
  | pause => exact .pause
  | refuse hv => exact course_still hv ⟨rfl, rfl, rfl, rfl⟩ rfl rfl rfl
  | adopt hv ho => exact .adopt hv ho
  | disband hv ho => exact .disband hv ho
  | remove | lookUp | endLookup | ping | pass =>
      exact course_still id ⟨rfl, rfl, rfl, rfl⟩ rfl rfl rfl
  | request =>
      refine .rest id ⟨rfl, rfl, rfl, rfl⟩ rfl (h.goesOn_ask none) ?_
      intro _
      exact .inr ⟨_, List.mem_cons_self, rfl⟩
  | turnAway hs hp hb =>
      refine .rest id ⟨rfl, rfl, rfl, rfl⟩ rfl (GoesOn.put hs rfl ?_) fun _ => .inl hb
      intro hf
      rw [hp] at hf
      cases hf
  | embark hs hp hb =>
      exact .rest id ⟨rfl, rfl, rfl, rfl⟩ rfl (GoesOn.put hs rfl fun _ => rfl) fun _ => .inl rfl
  | abort hs hp _ => exact .halt hs hp
  | callOff hs hp _ _ => exact .halt hs hp
  | overload hs hp _ _ _ =>
      exact course_fail id rfl ⟨rfl, rfl, rfl, rfl⟩ rfl hs rfl (by rw [hp]; rfl)
  | setOut hs hp _ _ _ => exact course_put h id hs rfl (by rw [hp]; rfl) rfl
  | collapse hs hp => exact course_fail id rfl ⟨rfl, rfl, rfl, rfl⟩ rfl hs rfl (by rw [hp]; rfl)
  | await hs hp _ _ _ => exact course_put h id hs rfl (by rw [hp]; rfl) rfl
  | stop hs hp _ => exact course_put h id hs rfl (Sweep.inFlight_of_ready hp) rfl
  | @dispatch s x rest φ hs hp _ _ _ hφ =>
      have hf := Sweep.inFlight_of_ready hp
      have hf' : φ.inFlight = true := by rcases hφ with rfl | ⟨w, rfl⟩ <;> rfl
      have hb := busy_of_inFlight h hs hf
      exact .rest id ⟨rfl, rfl, rfl, rfl⟩ rfl (GoesOn.put hs rfl fun _ => hf') fun _ => .inl hb
  | @stumble s x _ hs hp _ _ =>
      have hn : ¬ (Turn.proceed s.id).Steers σ := id
      have hf := Sweep.inFlight_of_ready hp
      exact course_fail (υ := σ.launch s x) hn rfl ⟨rfl, rfl, rfl, rfl⟩ rfl hs rfl hf
  | wake hs hp _ => exact course_put h id hs rfl (by rw [hp]; rfl) rfl
  | complete hs hp _ => exact .complete hs hp
  -- A probe gives its permit back, and no sweep changes its phase.
  | @endProbe p _ b =>
      refine .rest id ⟨rfl, rfl, rfl, rfl⟩ rfl (GoesOn.of_phases (phase?_release σ p b)) ?_
      rintro (hb | ⟨s, hs, hq⟩)
      · exact .inl hb
      · refine .inr ⟨_, List.mem_map_of_mem hs, ?_⟩
        split <;> exact hq
  -- The alarm is set to the deadline itself, and by no other of its turns.
  | alarmSet hx _ _ hd _ =>
      refine .alarm hx rfl rfl rfl id ?_ (GoesOn.of_phases fun _ => rfl)
      intro w hw
      cases hw
      exact hd
  | alarmOff hx | alarmRing hx =>
      refine .alarm hx rfl rfl rfl id ?_ (GoesOn.of_phases fun _ => rfl)
      intro w hw
      cases hw
  | alarmBusy hx | alarmFollow hx =>
      obtain ⟨n, hn⟩ := σ.planAhead_eq
      rw [hn]
      refine .alarm hx rfl rfl rfl (fun _ => rfl) ?_ (GoesOn.of_phases fun _ => rfl)
      intro w hw
      cases hw
  | alarmAsk hx _ _ _ _ =>
      refine .alarm hx rfl rfl rfl id ?_ (h.goesOn_ask _)
      intro w hw
      cases hw
  | tickOff hx _ => exact .tick hx rfl
  | tick hx _ => exact .tick hx rfl

/-! ## What becomes of the sweep in flight -/

section Fate

open Steering

variable {σ τ : Steering} {t : Turn}

theorem Steering.GoesOn.not_ends (h : σ.GoesOn τ) : ¬ (Step.mk σ t τ).ends := by
  rintro ⟨id, ⟨φ, hp, hf⟩, l, hl⟩
  obtain ⟨ψ, hψ, hψf⟩ := h id φ hp hf
  cases hψ.symm.trans hl
  cases hψf

theorem Steering.GoesOn.not_crashes (h : σ.GoesOn τ) : ¬ (Step.mk σ t τ).crashes := by
  rintro ⟨id, ⟨φ, hp, hf⟩, hc⟩
  obtain ⟨ψ, hψ, hψf⟩ := h id φ hp hf
  cases hψ.symm.trans hc
  cases hψf

theorem Step.completes.ends {x : Step} {s : Sweep} (h : x.completes s) : x.ends :=
  ⟨s.id, ⟨s.phase, phase?_of_sweep? h.1, by rw [h.2.1]; rfl⟩, h.2.2⟩

variable {s : Sweep} {φ : Sweep.Phase}

theorem Orderly.ends_iff (h : Orderly σ) (hs : σ.sweep? s.id = some s)
    (hf : s.phase.inFlight = true) (hφ : τ.phase? s.id = some φ) :
    (Step.mk σ t τ).ends ↔ ∃ l, φ = .ended l := by
  constructor
  · rintro ⟨id, ⟨ψ, hp, hψ⟩, l, hl⟩
    obtain ⟨rfl, -⟩ := h.phase?_inFlight hs hf hp hψ
    exact ⟨l, Option.some.inj (hφ.symm.trans hl)⟩
  · rintro ⟨l, rfl⟩
    exact ⟨s.id, ⟨s.phase, phase?_of_sweep? hs, hf⟩, l, hφ⟩

theorem Orderly.crashes_iff (h : Orderly σ) (hs : σ.sweep? s.id = some s)
    (hf : s.phase.inFlight = true) (hφ : τ.phase? s.id = some φ) :
    (Step.mk σ t τ).crashes ↔ φ = .crashed := by
  constructor
  · rintro ⟨id, ⟨ψ, hp, hψ⟩, hc⟩
    obtain ⟨rfl, -⟩ := h.phase?_inFlight hs hf hp hψ
    exact Option.some.inj (hφ.symm.trans hc)
  · rintro rfl
    exact ⟨s.id, ⟨s.phase, phase?_of_sweep? hs, hf⟩, hφ⟩

/-- Only the sweep in flight can complete. -/
theorem Orderly.eq_of_completes (h : Orderly σ) (hs : σ.sweep? s.id = some s)
    (hf : s.phase.inFlight = true) {u : Sweep} (hu : (Step.mk σ t τ).completes u) : u = s := by
  refine h.sweeps.alone u (mem_of_sweep? hu.1) s (mem_of_sweep? hs) ?_ hf
  rw [hu.2.1]
  rfl

theorem phase?_conclude (hs : σ.sweep? s.id = some s) (l : List Device) :
    (σ.conclude s l).phase? s.id = some (.ended l) := by
  have hl : (σ.conclude s l).sweep? s.id = some { s with phase := .ended l } :=
    sweep?_put_self hs rfl
  exact phase?_of_sweep? hl

theorem sweep?_publish (σ : Steering) (s : Sweep) (id : Nat) :
    (σ.publish s).sweep? id = σ.sweep? id := by
  obtain ⟨n, hn⟩ := σ.publish_eq s
  rw [hn]
  rfl

end Fate

/-! ## Along a run -/

/-- **`Run.carries`** — what holds of a new census without a past, and is kept by every kind of
turn, holds after every run. -/
theorem Census.Run.carries {I : Steering → List Step → Prop} {c d : Census} {h : List Step}
    (hr : Census.Run c h d) (hc : c.IsNew)
    (hnew : ∀ now o r, I (Census.initial now o r).steering [])
    (hcourse : ∀ {σ t τ h}, I σ h → Orderly σ → Course σ t τ → I τ (⟨σ, t, τ⟩ :: h)) :
    I d.steering h := by
  -- The order is no part of `I`: it is known along the run, and each turn may use it.
  induction hr with
  | start =>
      obtain ⟨now, o, r, rfl, -⟩ := hc.eq_initial
      exact hnew now o r
  | turn hr ht ih =>
      have ho := hr.orderly hc.orderly
      exact hcourse ih ho ((Census.take_moves ht).course ho)

end LanCensus
