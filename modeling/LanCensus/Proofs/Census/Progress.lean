/-
# LanCensus.Proofs.Census.Progress -- why a sweep ends

The work that is left to a sweep in flight is a number: so much for each address that it has not
turned to, so much for each probe under way, and something for its phase (`Sweep.work`). Every turn
of the sweep or of one of its probes leaves less of it, and no other turn changes it. As long as the
sweep is in flight there is such a turn, perhaps once the clock has moved on (`canGoOn`). Together
this says that a sweep ends, whichever of the possible turns comes next, and after how many of them.

`Story.follow` is the induction along a story during which one sweep is in flight. By it a sweep that
nobody pauses not only ends but covers its itinerary (`Begins.thorough`).
-/

import LanCensus.Proofs.Census.Staleness
import LanCensus.Proofs.Census.Turns

namespace LanCensus

/-! ## The work that is left -/

/-- The turns that probes under way have left. -/
def toDo : List Probe → Nat
  | [] => 0
  | p :: ps => (if p.begun then 1 else 2) + toDo ps

theorem toDo_append (ps qs : List Probe) : toDo (ps ++ qs) = toDo ps + toDo qs := by
  induction ps with
  | nil => simp [toDo]
  | cons p ps ih =>
      rw [List.cons_append, toDo, toDo, ih]
      omega

theorem toDo_filter_le (f : Probe → Bool) (ps : List Probe) : toDo (ps.filter f) ≤ toDo ps := by
  induction ps with
  | nil => exact Nat.le_refl _
  | cons p ps ih =>
      rw [List.filter_cons, toDo]
      split
      · rw [toDo]
        omega
      · omega

/-- A probe that ends has nothing left to do. -/
theorem toDo_filter_lt {p : Probe} {ps : List Probe} (hp : p ∈ ps) :
    toDo (ps.filter (·.id ≠ p.id)) < toDo ps := by
  induction ps with
  | nil => cases hp
  | cons q ps ih =>
      have hpos : 0 < if q.begun then 1 else 2 := by split <;> omega
      rw [List.filter_cons, toDo]
      rcases List.mem_cons.mp hp with rfl | hp
      · have hle := toDo_filter_le (·.id ≠ p.id) ps
        rw [if_neg (by simp)]
        omega
      · have hlt := ih hp
        split
        · rw [toDo]
          omega
        · omega

theorem toDo_begun_le (p : Probe) (ps : List Probe) :
    toDo (ps.map fun q => if q.id = p.id then { q with begun := true } else q) ≤ toDo ps := by
  induction ps with
  | nil => exact Nat.le_refl _
  | cons q ps ih =>
      rw [List.map_cons, toDo, toDo]
      refine Nat.add_le_add ?_ ih
      by_cases he : q.id = p.id
      · rw [if_pos he]
        cases q.begun <;> simp
      · rw [if_neg he]

/-- A probe that pings its address has less left to do. -/
theorem toDo_begun_lt {p : Probe} {ps : List Probe} (hp : p ∈ ps) (hb : p.begun = false) :
    toDo (ps.map fun q => if q.id = p.id then { q with begun := true } else q) < toDo ps := by
  induction ps with
  | nil => cases hp
  | cons q ps ih =>
      rw [List.map_cons, toDo, toDo]
      rcases List.mem_cons.mp hp with rfl | hp
      · refine Nat.add_lt_add_of_lt_of_le ?_ (toDo_begun_le p ps)
        simp [hb]
      · refine Nat.add_lt_add_of_le_of_lt ?_ (ih hp)
        by_cases he : q.id = p.id
        · rw [if_pos he]
          cases q.begun <;> simp
        · rw [if_neg he]

/-- **`s.work n ps`** — the turns that a sweep with the probes `ps` has left at most, if its subnets
have at most `n` addresses. An address takes five: the sweep waits, dispatches and rests, and the
probe pings and ends. -/
def Sweep.work (n : Nat) (s : Sweep) (ps : List Probe) : Nat :=
  match s.phase with
  | .listing => 5 * n + 4
  | .ready => 5 * s.targets.length + 3 + toDo ps
  | .waiting => 5 * s.targets.length + 2 + toDo ps
  | .resting _ => 5 * s.targets.length + 4 + toDo ps
  | .draining => 1 + toDo ps
  | .queued _ | .ended _ | .crashed => 0

namespace Census

variable {c : Census} {s s' : Sweep} {t : Turn} {ps : List Probe} {R : Records} {n : Nat}

theorem Advance.work_eq (h : c.Advance s t ps s' R) (hw : t.isWork = false) :
    s'.work n ps = s.work n c.probes := by
  cases h with
  | aside | remove => rfl
  | _ => cases hw

/-- **`Advance.work_lt`** — every turn of the sweep or of a probe leaves less work. -/
theorem Advance.work_lt (h : c.Advance s t ps s' R)
    (hset : ∀ p ∈ c.probes, s.phase.hasSetOut = true) (hw : t.isWork = true)
    (hn : ∀ id names, t = .list id (.ok names) →
      (targetsOf s.options (named names)).length ≤ n) :
    s'.work n ps < s.work n c.probes := by
  -- What a probe does is done by a sweep in one of the phases that have probes.
  have hprobe : ∀ {p : Probe} {qs : List Probe} {u : Sweep}, p ∈ c.probes → u.phase = s.phase →
      u.targets = s.targets → toDo qs < toDo c.probes → u.work n qs < s.work n c.probes := by
    intro p qs u hp hphase htargets hlt
    have hset := hset p hp
    unfold Sweep.work
    rw [hphase, htargets]
    cases hq : s.phase with
    | ready | waiting | resting w | draining => exact Nat.add_lt_add_left hlt _
    | _ =>
        rw [hq] at hset
        cases hset
  have hone : ∀ x, toDo (c.probes ++ [c.probeFor s x]) = toDo c.probes + 2 := by
    intro x
    rw [toDo_append]
    rfl
  cases h with
  | aside hno => cases hno.symm.trans hw
  | remove => cases hw
  | halt hp | overload hp | collapse hp =>
      simp only [Sweep.work, hp]
      omega
  | @setOut names hp =>
      have hle := hn _ _ rfl
      simp only [Sweep.work, hp, toDo]
      omega
  | await hp | wake hp =>
      simp only [Sweep.work, hp]
      omega
  | stop hp =>
      rcases hp with hp | hp <;> simp only [Sweep.work, hp] <;> omega
  | dispatch hp hx _ _ hφ =>
      rcases hp with hp | hp <;> rcases hφ with rfl | ⟨w, rfl⟩ <;>
        simp only [Sweep.work, hp, hx, List.length_cons, hone] <;> omega
  | complete hp =>
      simp only [Sweep.work, hp]
      omega
  | ping hp hb => exact hprobe hp rfl rfl (toDo_begun_lt hp hb)
  | endProbe hp _ => exact hprobe hp rfl rfl (toDo_filter_lt hp)

end Census

/-! ## Answers -/

/-- **`t.Keeps answer ok c`** — the turn does not go against what is known of the world: the question
for subnets is answered by `answer`, and a probe of the address `a` ends with an outcome `o` for which
`ok a o`. -/
def Turn.Keeps (answer : Except SubnetError (List String)) (ok : Address → Outcome → Prop)
    (c : Census) : Turn → Prop
  | .collapse _ => False
  | .list _ names => names = answer
  | .endProbe id o => ∀ p ∈ c.probe? id, ok p.address o
  | _ => True

instance {answer : Except SubnetError (List String)} {ok : Address → Outcome → Prop}
    [∀ a o, Decidable (ok a o)] (c : Census) (t : Turn) : Decidable (t.Keeps answer ok c) :=
  match t with
  | .collapse _ => inferInstanceAs (Decidable False)
  | .list _ names => inferInstanceAs (Decidable (names = answer))
  | .endProbe id o => inferInstanceAs (Decidable (∀ p ∈ c.probe? id, ok p.address o))
  | .start | .resume | .pause | .setOptions _ | .remove _ | .requestSweep | .lookUp _ | .embark _
  | .proceed _ | .ping _ | .endLookup .. | .alarm | .tick | .pass _ =>
    inferInstanceAs (Decidable True)

namespace Census

/-- The sweep is in flight. -/
def InFlight (c : Census) (id : Nat) : Prop :=
  ∃ φ, c.steering.phase? id = some φ ∧ φ.inFlight = true

instance (c : Census) (id : Nat) : Decidable (c.InFlight id) :=
  decidable_of_iff ((c.steering.phase? id).any (·.inFlight) = true) (Option.any_eq_true _ _)

/-- **`CanGoOn c answer ok`** — perhaps once the clock has moved on, a sweep in flight or one of its
probes can take a turn that keeps to the answers. -/
def CanGoOn (c : Census) (answer : Except SubnetError (List String))
    (ok : Address → Outcome → Prop) : Prop :=
  ∃ n t d, c.now ≤ n ∧ t.isWork = true ∧ t.Keeps answer ok c ∧
    ({ c with now := n } : Census).take t = some d

section

variable {c : Census} {s : Sweep}

/-- A sweep that asked for the subnets takes any answer. -/
theorem exists_take_list (hs : c.steering.sweep? s.id = some s) (hp : s.phase = .listing)
    (answer : Except SubnetError (List String)) : ∃ d, c.take (.list s.id answer) = some d := by
  cases answer with
  | ok names => exact ⟨_, take_list hs hp names⟩
  | error e =>
      refine ⟨c.unlisted s e, ?_⟩
      rw [Census.take, settleListing, show c.sweep? s.id = some s from hs, Option.bind_eq_bind,
        Option.bind_some]
      exact if_pos hp

theorem exists_proceed_of_ready (hp : s.phase = .ready) : ∃ d, c.proceed s = some d := by
  rw [proceed, hp]
  simp only
  split
  · exact ⟨_, rfl⟩
  · exact ⟨_, rfl⟩

end

/-! ## What always holds -/

/-- **`IsRegular c`** — what holds of every census that can come about. -/
structure IsRegular (c : Census) : Prop where
  orderly : Orderly c.steering
  supplied : Supplied c.steering
  numbered : Numbered c.steering

namespace IsRegular

variable {c d : Census} {s : Sweep} {t : Turn}

theorem take (h : c.IsRegular) (ht : c.take t = some d) : d.IsRegular :=
  have hm := take_moves ht
  ⟨h.orderly.moves hm, h.supplied.moves h.orderly hm, h.numbered.moves hm⟩

theorem of_isNew (hc : c.IsNew) : c.IsRegular := by
  have hs := (Reaches.refl (c := c)).supplied hc
  refine ⟨hs.1, hs.2, ?_⟩
  obtain ⟨now, o, r, rfl, -⟩ := hc.eq_initial
  exact ⟨fun p hp => absurd hp List.not_mem_nil, List.nodup_nil⟩

theorem reaches (h : c.IsRegular) (hr : Reaches c d) : d.IsRegular := by
  induction hr with
  | refl => exact h
  | step _ ht ih => exact ih.take ht

/-- A probe that is under way is found by its number. -/
theorem probe?_of_mem (h : c.IsRegular) {p : Probe} (hp : p ∈ c.probes) :
    c.probe? p.id = some p := by
  cases hq : c.probe? p.id with
  | none => exact absurd (beq_self_eq_true p.id) (List.find?_eq_none.mp hq p hp)
  | some q =>
      have hid : q.id = p.id := Steering.id_of_probe? (σ := c.steering) hq
      rw [h.numbered.eq_of_id (List.mem_of_find?_eq_some hq) hp hid]

/-- A sweep with probes under way has set out. -/
theorem hasSetOut (h : c.IsRegular) (hs : c.steering.sweep? s.id = some s)
    (hf : s.phase.inFlight = true) {p : Probe} (hp : p ∈ c.probes) : s.phase.hasSetOut = true := by
  obtain ⟨u, hu, hid, hset⟩ := h.supplied.belong p hp
  rw [h.supplied.sweep_eq h.orderly hs hf hp] at hid
  rwa [h.orderly.sweeps.eq_of_id hu (Steering.mem_of_sweep? hs) hid] at hset

variable {answer : Except SubnetError (List String)} {ok : Address → Outcome → Prop}

/-- A probe under way can ping its address or end. -/
theorem canGoOn_of_probe (h : c.IsRegular) {p : Probe} (hp : p ∈ c.probes) {o : Outcome}
    (ho : ok p.address o) : c.CanGoOn answer ok := by
  have hfound := h.probe?_of_mem hp
  cases hb : p.begun with
  | false => exact ⟨c.now, .ping p.id, _, Instant.le_refl _, rfl, trivial, take_ping hfound hb⟩
  | true =>
      refine ⟨c.now, .endProbe p.id o, _, Instant.le_refl _, rfl, ?_, take_endProbe hfound hb o⟩
      intro q hq
      obtain rfl := Option.some.inj (hfound.symm.trans hq)
      exact ho

/-- **`canGoOn`** — a sweep in flight never waits for ever: it can go on itself, it waits for one of
its probes, or it waits for the clock. -/
theorem canGoOn (h : c.IsRegular) (hs : c.steering.sweep? s.id = some s)
    (hf : s.phase.inFlight = true) (hok : ∀ a, ∃ o, ok a o) : c.CanGoOn answer ok := by
  have hproceed : ∀ {n d}, c.now ≤ n → ({ c with now := n } : Census).proceed s = some d →
      c.CanGoOn answer ok := fun {n d} hn hd =>
    ⟨n, .proceed s.id, d, hn, rfl, trivial, (take_proceed (c := { c with now := n }) hs).trans hd⟩
  have hprobe : ∀ p ∈ c.probes, c.CanGoOn answer ok := by
    intro p hp
    obtain ⟨o, ho⟩ := hok p.address
    exact h.canGoOn_of_probe hp ho
  cases hp : s.phase with
  | queued p | ended l | crashed =>
      rw [hp] at hf
      cases hf
  | listing =>
      obtain ⟨d, hd⟩ := exists_take_list hs hp answer
      exact ⟨c.now, .list s.id answer, d, Instant.le_refl _, rfl, rfl, hd⟩
  | ready =>
      obtain ⟨d, hd⟩ := exists_proceed_of_ready (c := c) hp
      exact hproceed (Instant.le_refl _) hd
  | waiting =>
      by_cases hfree : 0 < s.permits
      · refine hproceed (Instant.le_refl c.now) (d := c.dispatchNext s) ?_
        rw [proceed, hp]
        exact if_pos hfree
      · have hzero : s.permits = 0 := Nat.eq_zero_of_not_pos hfree
        obtain ⟨p, hmem, -⟩ := h.supplied.permits s (Steering.mem_of_sweep? hs) (by rw [hp]; rfl) hzero
        exact hprobe p hmem
  | resting w =>
      by_cases hw : w ≤ c.now
      · exact hproceed (Instant.le_refl _) (proceed_of_resting hp hw)
      · have hlt : c.now ≤ w := Instant.le_of_lt (Instant.not_le.mp hw)
        exact hproceed hlt (proceed_of_resting (c := { c with now := w }) hp (Instant.le_refl _))
  | draining =>
      cases hps : c.probes with
      | nil => exact hproceed (Instant.le_refl _) (proceed_of_draining hp hps)
      | cons p ps =>
          refine hprobe p ?_
          rw [hps]
          exact List.mem_cons_self

end IsRegular

/-! ## From the beginning of a sweep to its end -/

/-- **`Begins c id b`** — with its first turn the sweep begins and `b` is left: no other one is in
flight, and the census has not been paused since a timer or a start asked for it. -/
structure Begins (c : Census) (id : Nat) (b : Census) : Prop where
  idle : c.sweeping = false
  current : ∀ p, c.steering.phase? id = some (.queued p) → p.getD c.pauses = c.pauses
  turn : c.take (.embark id) = some b

/-- A sweep that meets no other one asks for the subnets, with the options that are in force. -/
theorem listing_of_embark {c b : Census} {id : Nat} (hidle : c.sweeping = false)
    (ht : c.take (.embark id) = some b) :
    b.records = c.records.signal true ∧
      ∃ p s, c.steering.phase? id = some (.queued p) ∧ b.steering.sweep? id = some s ∧
        s.phase = .listing ∧ s.pauses = p.getD c.pauses ∧ s.options = c.options := by
  have hm := take_moves ht
  have hw := take_writes ht
  constructor
  · generalize b.records = R at hw
    cases hw with
    | nothing hno => cases hno
    | turnAway hb => cases hidle.symm.trans hb
    | embark => rfl
  · generalize b.steering = τ at hm
    cases hm with
    | keepArmed ht | armTimer ht | armOnce ht => cases ht
    | turnAway _ _ hb => cases hidle.symm.trans hb
    | @embark s p hs hp _ =>
        refine ⟨p, _, ?_, Steering.sweep?_put_self (σ := { c.steering with sweeping := true }) hs rfl,
          rfl, rfl, rfl⟩
        rw [Steering.phase?_of_sweep? hs, hp]

/-- A sweep that begins goes by the pauses that there have been. -/
theorem Begins.listing {c b : Census} {id : Nat} (h : c.Begins id b) :
    b.records = c.records.signal true ∧ b.pauses = c.pauses ∧
      ∃ s, b.steering.sweep? id = some s ∧ s.phase = .listing ∧ s.pauses = b.pauses ∧
        s.options = c.options := by
  obtain ⟨hrecords, p, s, hp, hs, hphase, hq, ho⟩ := listing_of_embark h.idle h.turn
  have hpauses : b.pauses = c.pauses := pauses_of_take h.turn rfl
  refine ⟨hrecords, hpauses, s, hs, hphase, ?_, ho⟩
  rw [hq, hpauses]
  exact h.current p hp

/-- **`Thorough way answer ok id h d`** — if `h` is what has happened since the sweep began, it has not
taken more turns than the addresses `way` give it, it can go on until it is over, and when it is over it
has failed or has dispatched all of them one after another. -/
structure Thorough (way : List Address) (answer : Except SubnetError (List String))
    (ok : Address → Outcome → Prop) (id : Nat) (h : List Deed) (d : Census) : Prop where
  bounded : h.countP (·.turn.isWork) ≤ 5 * way.length + 4
  goesOn : d.InFlight id → d.CanGoOn answer ok
  covers : ¬ d.InFlight id → d.steering.phase? id = some .crashed ∨
    (∃ l, d.steering.phase? id = some (.ended l)) ∧ dispatchedBy id (h.map Deed.step) = way

/-- **`Voyage id answer ok b h d`** — the history `h` leads from `b` to `d`, the sweep is in flight
before each of its turns, and each of them keeps to the answers. -/
structure Voyage (id : Nat) (answer : Except SubnetError (List String))
    (ok : Address → Outcome → Prop) (b : Census) (h : List Deed) (d : Census) : Prop where
  story : Story b h d
  inFlight : ∀ x ∈ h, x.before.InFlight id
  keeps : ∀ x ∈ h, x.turn.Keeps answer ok x.before

/-- **`Story.follow`** — what holds of a sweep before a story, and is kept by every turn that is taken
while it is in flight, holds after the story if the sweep is in flight before each turn. -/
theorem Story.follow {b d : Census} {id : Nat} {h : List Deed} {s₀ : Sweep} {Q : Deed → Prop}
    {P : List Deed → Census → Sweep → Prop} (hst : Story b h d) (hb : b.IsRegular)
    (hs : b.steering.sweep? id = some s₀) (hstart : P [] b s₀)
    (hstep : ∀ {h : List Deed} {c e : Census} {t : Turn} {s s' : Sweep}, c.IsRegular →
      s.id = id ∧ s.pauses = s₀.pauses ∧ s.options = s₀.options →
      c.steering.sweep? s.id = some s → s.phase.inFlight = true → P h c s → Q ⟨c, t, e⟩ →
      c.take t = some e → c.Advance s t e.probes s' e.records → P (⟨c, t, e⟩ :: h) e s')
    (hin : ∀ x ∈ h, x.before.InFlight id) (hQ : ∀ x ∈ h, Q x) :
    ∃ s, d.steering.sweep? id = some s ∧ s.pauses = s₀.pauses ∧ s.options = s₀.options ∧
      P h d s := by
  induction hst with
  | start => exact ⟨s₀, hs, rfl, rfl, hstart⟩
  | turn hst ht ih =>
      rw [List.forall_mem_cons] at hin hQ
      obtain ⟨s, hfound, hpauses, hoptions, hP⟩ := ih hin.2 hQ.2
      have hreg := hb.reaches hst.run.reaches
      have hid := Steering.id_of_sweep? hfound
      -- The sweep was in flight before the turn, and it is the one that is found.
      obtain ⟨φ, hφ, hf⟩ := hin.1
      obtain rfl := Option.some.inj ((Steering.phase?_of_sweep? hfound).symm.trans hφ)
      rw [← hid] at hfound
      obtain ⟨s', hs', hadv⟩ := advance_of_take hreg.orderly hreg.supplied hfound hf ht
      rw [hid] at hs'
      obtain ⟨-, hpauses', hoptions'⟩ := hadv.same
      refine ⟨s', hs', hpauses'.trans hpauses, hoptions'.trans hoptions, ?_⟩
      exact hstep hreg ⟨hid, hpauses, hoptions⟩ hfound hf hP hQ.1 ht hadv

/-- As long as nobody pauses the census, the pauses stay as many. -/
theorem Story.pauses_eq {b d : Census} {h : List Deed} (hst : Story b h d)
    (hno : ∀ x ∈ h, x.turn.isPause = false) : d.pauses = b.pauses := by
  induction hst with
  | start => rfl
  | turn _ ht ih =>
      rw [List.forall_mem_cons] at hno
      rw [pauses_of_take ht hno.1, ih hno.2]

section Voyage

variable {b d : Census} {id : Nat} {h : List Deed} {s₀ : Sweep} {ok : Address → Outcome → Prop}
  {answer : Except SubnetError (List String)}

/-- **`Voyage.work_le`** — the turns that a sweep and its probes have taken and those that they have
left are bounded by the number of its addresses. -/
theorem Voyage.work_le (hv : Voyage id answer ok b h d) (hb : b.IsRegular)
    (hs : b.steering.sweep? id = some s₀) (hp : s₀.phase = .listing) {n : Nat}
    (hn : (s₀.options.itinerary answer).length = n) :
    ∃ s, d.steering.sweep? id = some s ∧
      h.countP (·.turn.isWork) + s.work n d.probes ≤ 5 * n + 4 := by
  have hend := hv.story.follow
    (P := fun h c s => h.countP (·.turn.isWork) + s.work n c.probes ≤ 5 * n + 4) hb hs
    (by simp [Sweep.work, hp]) ?_ hv.inFlight hv.keeps
  · obtain ⟨s, hs', -, -, hwork⟩ := hend
    exact ⟨s, hs', hwork⟩
  · rintro h c e t s s' hreg ⟨-, -, hoptions⟩ hfound hf hwork hkeeps ht hadv
    rw [List.countP_cons]
    cases hw : t.isWork with
    | false =>
        rw [hadv.work_eq hw]
        simpa [hw] using hwork
    | true =>
        have hlt := hadv.work_lt (n := n) (fun p hm => hreg.hasSetOut hfound hf hm) hw ?_
        · simp only [if_true]
          omega
        · rintro id names rfl
          have hnames : .ok names = answer := hkeeps
          rw [← List.length_map Sweep.Target.address,
            Sweep.Options.map_address_targetsOf_named, hnames, hoptions, hn]

/-- **`Voyage.ends`** — a sweep ends after a bounded number of turns, and until then there is always one
to take. -/
theorem Voyage.ends (hv : Voyage id answer ok b h d) (hb : b.IsRegular)
    (hs : b.steering.sweep? id = some s₀) (hp : s₀.phase = .listing) (hok : ∀ a, ∃ o, ok a o) :
    h.countP (·.turn.isWork) ≤ 5 * (s₀.options.itinerary answer).length + 4 ∧
      (d.InFlight id → d.CanGoOn answer ok) := by
  obtain ⟨s, hfound, hwork⟩ := hv.work_le hb hs hp rfl
  have hreg : d.IsRegular := hb.reaches hv.story.run.reaches
  refine ⟨Nat.le_trans (Nat.le_add_right _ _) hwork, ?_⟩
  rintro ⟨φ, hφ, hf⟩
  obtain rfl := Option.some.inj ((Steering.phase?_of_sweep? hfound).symm.trans hφ)
  have hid := Steering.id_of_sweep? hfound
  exact hreg.canGoOn (hid.symm ▸ hfound) hf hok

/-- **`Voyage.onRoute`** — a sweep that no pause has overtaken keeps to its itinerary. -/
theorem Voyage.onRoute (hv : Voyage id answer ok b h d) (hb : b.IsRegular)
    (hs : b.steering.sweep? id = some s₀) (hp : s₀.phase = .listing) (hq : s₀.pauses ≤ b.pauses)
    {way : List Address} (hway : s₀.options.itinerary answer = way) :
    ∃ s, d.steering.sweep? id = some s ∧ s.pauses = s₀.pauses ∧
      (d.pauses = s.pauses → s.OnRoute way (dispatchedBy id (h.map Deed.step))) := by
  have hend := hv.story.follow
    (P := fun h c s => s.pauses ≤ c.pauses ∧
      (c.pauses = s.pauses → s.OnRoute way (dispatchedBy id (h.map Deed.step)))) hb hs
    ⟨hq, fun _ => ?_⟩ ?_ hv.inFlight hv.keeps
  · obtain ⟨s, hs', hpauses, -, -, hroute⟩ := hend
    exact ⟨s, hs', hpauses, hroute⟩
  · unfold Sweep.OnRoute
    rw [hp]
    rfl
  · rintro h c e t s s' hreg ⟨rfl, -, hoptions⟩ - - ⟨hle, hroute⟩ hkeeps ht hadv
    have hmono : c.pauses ≤ e.pauses := (take_moves ht).mono.1
    rw [hadv.same.2.1]
    refine ⟨Nat.le_trans hle hmono, fun he => ?_⟩
    -- Pauses are not taken back, so the sweep had not been overtaken before the turn.
    have hlevel : c.pauses = s.pauses := Nat.le_antisymm (he ▸ hmono) hle
    refine (hroute hlevel).advance (by rw [hoptions, hway]) hreg.numbered hlevel ?_ hadv rfl
    rintro id names rfl
    exact hkeeps

/-- **`Begins.thorough`** — a sweep that nobody pauses covers its itinerary. -/
theorem Begins.thorough {c : Census} (hbegins : c.Begins id b) (hreg : c.IsRegular)
    (hv : Voyage id answer ok b h d) (hok : ∀ a, ∃ o, ok a o)
    (hpause : ∀ x ∈ h, x.turn.isPause = false) :
    Thorough (c.options.itinerary answer) answer ok id h d := by
  have hb : b.IsRegular := hreg.take hbegins.turn
  obtain ⟨-, -, s₀, hs, hp, hq, ho⟩ := hbegins.listing
  obtain ⟨hbounded, hgoes⟩ := hv.ends hb hs hp hok
  rw [ho] at hbounded
  obtain ⟨s, hfound, hpauses, hroute⟩ := hv.onRoute hb hs hp (Nat.le_of_eq hq) (by rw [ho])
  have hlevel : d.pauses = b.pauses := hv.story.pauses_eq hpause
  have hphase := Steering.phase?_of_sweep? hfound
  refine ⟨hbounded, hgoes, fun hover => ?_⟩
  rw [hphase]
  have hon := hroute ((hlevel.trans hq.symm).trans hpauses.symm)
  rcases hon.crashed_or_ended fun hf => hover ⟨_, hphase, hf⟩ with hcrashed | ⟨⟨l, hl⟩, hsent⟩
  · exact .inl (congrArg some hcrashed)
  · exact .inr ⟨⟨l, congrArg some hl⟩, hsent⟩

end Voyage

end Census

end LanCensus
