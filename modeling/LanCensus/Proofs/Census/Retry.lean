/-
# LanCensus.Proofs.Census.Retry -- when a sweep without subnets is tried again

A sweep that ends for want of subnets publishes no deadline. If the timer has asked for it, the timer
notices that it is over, finds no deadline ahead and plans one, an interval later; it sleeps until then
and asks for the next sweep, which is the retry. A round of the timer has these three parts: it waits
for the sweep (`Waits`), it has planned the next one (`Planned`), and it has asked again. `Round.moves`
leads from turn to turn, and `Retries` says what follows for a whole round: no retry before the
interval is over, and one when it is.

`sweep_of_answer` joins this to what the answer to the question for subnets makes of a sweep.
-/

import LanCensus.Proofs.Census.Fruitless
import LanCensus.Proofs.Census.Oversleep
import LanCensus.Proofs.Census.Pace

namespace LanCensus

/-- **`t.IsRound id answer`** — the turn is one of the timer, of the clock, or of the sweep `id`, which
is given the answer. -/
def Turn.IsRound (id : Nat) (answer : Except SubnetError (List String)) : Turn → Prop
  | .alarm | .tick | .pass _ => True
  | .embark i => i = id
  | .list i names => i = id ∧ names = answer
  | _ => False

instance (id : Nat) (answer : Except SubnetError (List String)) (t : Turn) :
    Decidable (t.IsRound id answer) := by
  unfold Turn.IsRound
  split <;> infer_instance

/-- The timer, which has followed the sweep, notices that it is over. -/
def Step.returnsFrom (id : Nat) (x : Step) : Prop :=
  x.turn = .alarm ∧ x.before.alarm? = some (.following id) ∧
    ∃ φ, x.before.phase? id = some φ ∧ φ.isOver = true

section

open Steering

variable {σ τ : Steering} {t : Turn} {id : Nat} {n : Instant} {o : Sweep.Options} {k : List Step}
  {answer : Except SubnetError (List String)}

/-- The numbers of the sweeps that were asked for. -/
def Steering.ids (σ : Steering) : List Nat := σ.sweeps.map (·.id)

/-- A round leaves the options as they are. -/
theorem Moves.options_eq (hm : Moves σ t τ) (ht : t.IsRound id answer) : τ.options = σ.options := by
  cases hm with
  | adopt | disband => cases ht
  | complete => cases ht
  | alarmBusy | alarmFollow =>
      obtain ⟨n, hn⟩ := σ.planAhead_eq
      rw [hn]
  | _ => rfl

/-! ## Waiting for the sweep -/

/-- **`Waits id σ`** — the timer follows the sweep, which is the latest that was asked for. No deadline
lies ahead, and no other sweep is in flight. -/
structure Waits (id : Nat) (σ : Steering) : Prop where
  alarm : σ.alarm? = some (.following id)
  known : ∃ φ, σ.phase? id = some φ
  free : σ.nothingAhead = true
  alone : σ.sweeping = true → σ.phase? id = some .listing
  latest : ∀ i ∈ σ.ids, i ≤ id

/-- **`Planned n id σ`** — the sweep is over and no later one has been asked for. The next one is due at
`n`, and the timer is awake or sleeps until then. -/
structure Planned (n : Instant) (id : Nat) (σ : Steering) : Prop where
  due : σ.nextSweep = some n
  alarm : σ.alarm? = some .ringing ∨ σ.alarm? = some (.set n)
  idle : σ.sweeping = false
  ended : ∃ φ, σ.phase? id = some φ ∧ φ.isOver = true
  latest : ∀ i ∈ σ.ids, i ≤ id

/-- A timer that has just asked for a sweep waits for it. -/
theorem Waits.of_asks (ho : Orderly σ) (hm : Moves σ t τ) (hx : (Step.mk σ t τ).asks id) :
    Waits id τ := by
  obtain ⟨⟨rfl, -⟩, hask⟩ := hx
  cases hm with
  | keepArmed h | armTimer h | armOnce h => cases h
  | alarmOff | alarmSet | alarmBusy | alarmRing | alarmFollow => cases Option.some.inj hask
  | @alarmAsk x hx _ _ hn hs =>
      obtain rfl : σ.fresh = id := Alarm.following.inj (Option.some.inj hask)
      have hasked : (σ.ask (some x.pauses)).sweep? σ.fresh =
          some (.queued σ.fresh (some x.pauses) σ.options) :=
        List.find?_cons_of_pos (beq_self_eq_true σ.fresh)
      refine ⟨rfl, ⟨_, phase?_of_sweep? hasked⟩, hn, fun hb => ?_, fun i hi => ?_⟩
      · cases hs.symm.trans hb
      · rcases List.mem_cons.mp hi with rfl | hi
        · exact Nat.le_refl _
        · obtain ⟨s, hmem, rfl⟩ := List.mem_map.mp hi
          exact Nat.le_of_lt (ho.sweeps.below s hmem)

/-- **`Waits.moves`** — as long as the sweep is not over the timer waits for it; then it plans an
interval ahead. -/
theorem Waits.moves (h : Waits id σ) (ho : Orderly σ) (hm : Moves σ t τ)
    (ht : t.IsRound id answer) (hno : NoSubnets answer) :
    Waits id τ ∨ ((Step.mk σ t τ).returnsFrom id ∧
      Planned (dueAfter σ.now σ.options.interval) id τ) := by
  have hfollows : ∀ {x : Timer}, σ.timer = some x → x.alarm = .following id := fun hx =>
    Option.some.inj ((alarm?_of_timer hx).symm.trans h.alarm)
  cases hm with
  | keepArmed hs | armTimer hs | armOnce hs =>
      cases t with
      | start | resume => cases ht
      | _ => cases hs
  | turnAway hs hp hb =>
      obtain rfl := ht
      have hlisting := (phase?_of_sweep? hs).symm.trans (h.alone hb)
      cases hp.symm.trans (Option.some.inj hlisting)
  | @embark s p hs hp hb =>
      obtain rfl := ht
      let υ : Steering := { σ with sweeping := true }
      let s' : Sweep :=
        { s with phase := .listing, pauses := p.getD σ.pauses, options := σ.options }
      have hs' : (υ.put s').sweep? s.id = some s' := sweep?_put_self hs rfl
      have hids : (υ.put s').ids = σ.ids := ids_put (σ := υ) s'
      have hlisting : (υ.put s').phase? s.id = some .listing := phase?_of_sweep? hs'
      exact .inl ⟨h.alarm, ⟨_, hlisting⟩, h.free, fun _ => hlisting, hids ▸ h.latest⟩
  | @abort s _ l hs hp hn =>
      obtain ⟨rfl, rfl⟩ := ht
      have hids : (σ.conclude s l).ids = σ.ids :=
        ids_put (σ := { σ with armed := σ.armed && σ.options.continuous, sweeping := false }) _
      exact .inl ⟨h.alarm, ⟨_, phase?_conclude hs l⟩, h.free, nofun, hids ▸ h.latest⟩
  | callOff _ _ hn | overload _ _ hn | setOut _ _ hn =>
      obtain ⟨-, rfl⟩ := ht
      exact absurd hno hn
  | alarmOff hx ha | alarmSet hx ha | alarmBusy hx ha | alarmAsk hx ha | alarmRing hx ha =>
      cases (hfollows hx).symm.trans ha
  | @alarmFollow x i hx ha hover =>
      obtain rfl : i = id := Alarm.following.inj (ha.symm.trans (hfollows hx))
      obtain ⟨φ, hφ⟩ := h.known
      have hφover : φ.isOver = true := by
        obtain ⟨s, hs, rfl⟩ := Option.map_eq_some_iff.mp hφ
        rw [hs] at hover
        exact hover
      have hplan : σ.planAhead =
          { σ with nextSweep := some (dueAfter σ.now σ.options.interval) } := if_pos h.free
      rw [hplan]
      refine .inr ⟨⟨rfl, h.alarm, φ, hφ, hφover⟩, rfl, .inl rfl, ?_, ⟨φ, hφ, hφover⟩, h.latest⟩
      -- A sweep in flight would be the one that is over.
      refine Bool.eq_false_iff.mpr fun hb => ?_
      obtain rfl := Option.some.inj (hφ.symm.trans (h.alone hb))
      cases hφover
  | tickOff hx hq => exact absurd (ho.timer _ hx).2.2.1.symm hq
  | @tick x _ hx =>
      have halarm : x.alarm = .following id := hfollows hx
      exact .inl ⟨congrArg some halarm, h.known, h.free, h.alone, h.latest⟩
  | pass hn =>
      refine .inl ⟨h.alarm, h.known, ?_, h.alone, h.latest⟩
      have hfree := nothingAhead_iff.mp h.free
      exact nothingAhead_iff.mpr fun m hm => Instant.le_trans (hfree m hm) hn
  | _ => cases ht

/-! ## Waiting for the deadline -/

/-- **`Planned.moves`** — the plan stands until the timer asks for the next sweep, which it does when
the deadline has come. -/
theorem Planned.moves (h : Planned n id σ) (ho : Orderly σ) (hm : Moves σ t τ)
    (ht : t.IsRound id answer) :
    Planned n id τ ∨ (n ≤ σ.now ∧ ∃ i ∈ τ.ids, id < i) := by
  obtain ⟨φ, hφ, hover⟩ := h.ended
  -- The sweep is over, so it neither waits for its turn nor for its subnets.
  have hstands : ∀ {s : Sweep}, σ.sweep? s.id = some s → s.id = id → s.phase = φ := by
    rintro s hs rfl
    exact Option.some.inj ((phase?_of_sweep? hs).symm.trans hφ)
  have halarm : ∀ {x : Timer}, σ.timer = some x → x.alarm = .ringing ∨ x.alarm = .set n := by
    intro x hx
    have ha := h.alarm
    rw [alarm?_of_timer hx] at ha
    exact ha.imp Option.some.inj Option.some.inj
  cases hm with
  | keepArmed hs | armTimer hs | armOnce hs =>
      cases t with
      | start | resume => cases ht
      | _ => cases hs
  | turnAway hs hp | embark hs hp =>
      rw [← hstands hs ht, hp] at hover
      cases hover
  | abort hs hp | callOff hs hp | overload hs hp | setOut hs hp =>
      rw [← hstands hs ht.1, hp] at hover
      cases hover
  | alarmOff hx _ hq => exact absurd (ho.timer _ hx).2.2.1.symm hq
  | alarmSet hx _ _ hdue _ =>
      obtain rfl := Option.some.inj (h.due.symm.trans hdue)
      exact .inl ⟨h.due, .inr rfl, h.idle, h.ended, h.latest⟩
  | alarmBusy _ _ _ _ hb => cases h.idle.symm.trans hb
  | alarmAsk _ _ _ hn _ =>
      refine .inr ⟨nothingAhead_iff.mp hn n h.due, σ.fresh, List.mem_cons_self, ?_⟩
      obtain ⟨s, hmem, rfl, -⟩ := mem_of_phase? hφ
      exact ho.sweeps.below s hmem
  | alarmRing => exact .inl ⟨h.due, .inl rfl, h.idle, h.ended, h.latest⟩
  | alarmFollow hx ha =>
      rcases halarm hx with hring | hset
      · cases ha.symm.trans hring
      · cases ha.symm.trans hset
  | tickOff hx hq => exact absurd (ho.timer _ hx).2.2.1.symm hq
  | tick hx =>
      refine .inl ⟨h.due, ?_, h.idle, h.ended, h.latest⟩
      exact (halarm hx).imp (congrArg some) (congrArg some)
  | pass => exact .inl ⟨h.due, h.alarm, h.idle, h.ended, h.latest⟩
  | _ => cases ht

/-! ## A round -/

/-- **`Round o id k σ`** — since the timer asked for the sweep the turns `k` have been taken. The timer
waits for the sweep; or it has noticed that it is over and sleeps until an interval of the options `o`
is over; or the interval is over and it has asked again. -/
inductive Round (o : Sweep.Options) (id : Nat) (k : List Step) (σ : Steering) : Prop
  | waits : Waits id σ → Round o id k σ
  | planned {x : Step} : x ∈ k → x.returnsFrom id →
      Planned (dueAfter x.before.now o.interval) id σ → Round o id k σ
  | again {x : Step} : x ∈ k → x.returnsFrom id → dueAfter x.before.now o.interval ≤ σ.now →
      (∃ i ∈ σ.ids, id < i) → Round o id k σ

/-- **`Round.moves`** — each turn of the round leads from one part to itself or to the next. -/
theorem Round.moves (h : Round σ.options id k σ) (ho : Orderly σ) (hm : Moves σ t τ)
    (ht : t.IsRound id answer) (hno : NoSubnets answer) :
    Round σ.options id (⟨σ, t, τ⟩ :: k) τ := by
  cases h with
  | waits hw =>
      rcases hw.moves ho hm ht hno with hw | ⟨hx, hplanned⟩
      · exact .waits hw
      · exact .planned List.mem_cons_self hx hplanned
  | planned hmem hx hp =>
      rcases hp.moves ho hm ht with hp | ⟨hle, hlater⟩
      · exact .planned (List.mem_cons_of_mem _ hmem) hx hp
      · exact .again (List.mem_cons_of_mem _ hmem) hx (Instant.le_trans hle hm.now_le) hlater
  | again hmem hx hle hlater =>
      obtain ⟨i, hi, hlt⟩ := hlater
      exact .again (List.mem_cons_of_mem _ hmem) hx (Instant.le_trans hle hm.now_le)
        ⟨i, hm.ids_suffix.subset hi, hlt⟩

end

namespace Census

/-- A round of the timer goes from part to part, and the options stay as they are. -/
theorem Run.round {b d : Census} {k : List Step} {id : Nat}
    {answer : Except SubnetError (List String)} (hr : Run b k d) (ho : Orderly b.steering)
    (hw : Waits id b.steering) (hno : NoSubnets answer) (hk : ∀ x ∈ k, x.turn.IsRound id answer) :
    d.options = b.options ∧ Round b.options id k d.steering := by
  induction hr with
  | start => exact ⟨rfl, .waits hw⟩
  | @turn k d e t hr ht ih =>
      rw [List.forall_mem_cons] at hk
      obtain ⟨hsame, hround⟩ := ih hk.2
      have hm := take_moves ht
      refine ⟨(hm.options_eq hk.1).trans hsame, ?_⟩
      rw [← hsame] at hround ⊢
      exact Round.moves (σ := d.steering) hround (hr.orderly ho) hm hk.1 hno

/-- **`Retries o id k d`** — with the turns `k` since the timer asked for the sweep, there is a later
sweep only if an interval of the options `o` is over since the timer noticed that this one is over.
And once this one is over, and the timer has nothing to do now and has asked for no other, it will ask
for one when the interval is over, and the sweep begins at that instant. -/
structure Retries (o : Sweep.Options) (id : Nat) (k : List Step) (d : Census) : Prop where
  early : (∃ s ∈ d.sweeps, id < s.id) →
    ∃ x ∈ k, x.returnsFrom id ∧ dueAfter x.before.now o.interval ≤ d.now
  due : d.take .alarm = none → (∃ φ, d.steering.phase? id = some φ ∧ φ.isOver = true) →
    (∀ s ∈ d.sweeps, s.id ≤ id) →
      ∃ x ∈ k, x.returnsFrom id ∧ d.nextSweep = some (dueAfter x.before.now o.interval) ∧ d.Punctual

/-- A timer that follows a sweep can go on when the sweep is over. -/
theorem exists_alarm_of_following {d : Census} {id : Nat} {t : Timer} (ht : d.timer = some t)
    (ha : t.alarm = .following id)
    (hover : ∃ φ, d.steering.phase? id = some φ ∧ φ.isOver = true) :
    ∃ e, d.take .alarm = some e := by
  obtain ⟨φ, hφ, hover⟩ := hover
  obtain ⟨s, hs, rfl⟩ := Option.map_eq_some_iff.mp hφ
  have hs' : d.sweep? id = some s := hs
  refine ⟨d.planAhead.putTimer { t with alarm := .ringing }, ?_⟩
  show d.timerTurn = _
  rw [timerTurn, ht, Option.bind_eq_bind, Option.bind_some]
  simp only [ha, hs', Option.all_some, hover, if_true]

theorem Retries.of_round {o : Sweep.Options} {id : Nat} {k : List Step} {d : Census}
    (h : Round o id k d.steering) (ho : Orderly d.steering) : Retries o id k d := by
  have hlast : (∀ i ∈ d.steering.ids, i ≤ id) → ¬ ∃ s ∈ d.sweeps, id < s.id := by
    rintro hall ⟨s, hs, hlt⟩
    exact absurd (hall s.id (List.mem_map_of_mem hs)) (Nat.not_le.mpr hlt)
  have htimer : ∀ {a : Alarm}, d.steering.alarm? = some a → ∃ t, d.timer = some t ∧ t.alarm = a :=
    fun ha => Option.map_eq_some_iff.mp ha
  cases h with
  | waits hw =>
      refine ⟨fun hlater => (hlast hw.latest hlater).elim, fun hnone hover _ => ?_⟩
      obtain ⟨t, ht, ha⟩ := htimer hw.alarm
      obtain ⟨e, he⟩ := exists_alarm_of_following ht ha hover
      cases hnone.symm.trans he
  | @planned x hmem hx hp =>
      refine ⟨fun hlater => (hlast hp.latest hlater).elim, fun hnone _ _ => ⟨x, hmem, hx, hp.due, ?_⟩⟩
      rcases hp.alarm with ha | ha
      · obtain ⟨t, ht, hring⟩ := htimer ha
        cases hnone.symm.trans (take_alarm_of_ringing ht hring)
      · obtain ⟨t, ht, hset⟩ := htimer ha
        refine punctual_of_wake ho hp.idle ht hset hp.due (Instant.not_le.mp fun hle => ?_)
          (Instant.le_refl _)
        cases hnone.symm.trans (take_alarm_of_set ht hset hle)
  | @again x hmem hx hle hlater =>
      refine ⟨fun _ => ⟨x, hmem, hx, hle⟩, fun _ _ hall => ?_⟩
      obtain ⟨i, hi, hlt⟩ := hlater
      obtain ⟨s, hs, rfl⟩ := List.mem_map.mp hi
      exact absurd (hall s hs) (Nat.not_le.mpr hlt)

/-! ## What the answer decides -/

/-- **`sweep_of_answer`** — in every state that a census can reach: a sweep that meets no other one and
is told of no subnet, with nobody but the clock beside it, is fruitless. One that is told of some
subnet, and that nobody pauses, takes the names of subnets and complains about the others, each once;
it covers the addresses if as many probes at once as it may have can be managed, and only then. And
when the timer has asked for a sweep that is told of no subnet, the sweep is retried one interval
later. -/
theorem sweep_of_answer {c₀ c : Census} (hc : c₀.IsNew) (hr : Reaches c₀ c) (id : Nat) :
    (∀ answer b h d, NoSubnets answer → c.sweeping = false → c.take (.embark id) = some b →
      Voyage id answer (fun _ _ => True) b h d → (∀ x ∈ h, x.turn.isSecluded = true) →
        Aborts c id answer h d) ∧
    (∀ names b h d, (∃ name ∈ names, (Subnet.parse? name).isSome) → c.Begins id b →
      Voyage id (.ok names) (fun _ _ => True) b h d → (∀ x ∈ h, x.turn.isPause = false) →
        Sifts c id names h d) ∧
    (∀ answer b k d, NoSubnets answer → c.take .alarm = some b →
      (Step.mk c.steering .alarm b.steering).asks id → Run b k d →
      (∀ x ∈ k, x.turn.IsRound id answer) → Retries c.options id k d) := by
  have hreg : c.IsRegular := (IsRegular.of_isNew hc).reaches hr
  refine ⟨fun answer b h d hno hidle hembark hv halone => ?_,
    fun names b h d hn hbegins hv hquiet => ?_, fun answer b k d hno ht hask hk hround => ?_⟩
  · exact hv.aborts hreg hidle hembark hno halone
  · exact hv.sifts hreg hbegins hn hquiet
  · have hm := take_moves ht
    have ho : Orderly b.steering := hreg.orderly.moves hm
    have halarm : Turn.alarm.IsRound id answer := trivial
    have hopt : b.options = c.options := hm.options_eq halarm
    obtain ⟨-, hd⟩ := hk.round ho (.of_asks hreg.orderly hm hask) hno hround
    rw [hopt] at hd
    exact .of_round hd (hk.orderly ho)

/-- A sweep that the timer has asked for and that is told two names of no subnet, a sweep of two
addresses that is told one, and a timer whose sweep is told of an error and which retries it. -/
theorem small_sweep_of_answer :
    (∃ c b h d, Reaches (small true) c ∧ c.take (.embark 0) = some b ∧
      Voyage 0 (.ok ["nowhere", "10.0"]) (fun _ _ => True) b h d ∧ c.armed = true ∧
      IsFruitless c 0 (.ok ["nowhere", "10.0"]) d) ∧
    (∃ b d, (pair.requestSweep none).Begins 0 b ∧
      Voyage 0 (.ok ["nowhere", "192.168.1"]) (fun _ _ => True) b (b.chronicle pairTurns) d ∧
      Complains ["nowhere", "192.168.1"] (b.chronicle pairTurns) ∧
      (∃ l, d.steering.phase? 0 = some (.ended l)) ∧
      dispatchedBy 0 ((b.chronicle pairTurns).map Deed.step) =
        (pair.requestSweep none).options.itinerary (.ok ["nowhere", "192.168.1"])) ∧
    (∃ c b k d, Reaches (small true) c ∧ c.take .alarm = some b ∧ Run b k d ∧
      Retries c.options 0 k d ∧ d.nextSweep = some ⟨307, 0⟩ ∧ d.Punctual) := by
  refine ⟨?_, ?_, ?_⟩
  · let ts : List Turn := [.pass ⟨1, 0⟩, .list 0 (.ok ["nowhere", "10.0"])]
    have hcheck : ((small true).replay [.start, .alarm]).any (fun c =>
        (c.take (.embark 0)).any fun b => (b.replay ts).any fun d =>
          decide (c.sweeping = false ∧ c.armed = true ∧ ¬ d.InFlight 0 ∧
            ∀ x ∈ b.chronicle ts, x.before.InFlight 0 ∧
              x.turn.Keeps (.ok ["nowhere", "10.0"]) (fun _ _ => True) x.before ∧
              x.turn.isSecluded = true)) = true := by
      decide +kernel
    obtain ⟨c, hc, hcheck⟩ := (Option.any_eq_true _ _).mp hcheck
    obtain ⟨b, hb, hcheck⟩ := (Option.any_eq_true _ _).mp hcheck
    obtain ⟨d, hd, hcheck⟩ := (Option.any_eq_true _ _).mp hcheck
    obtain ⟨hidle, harmed, hover, hdeeds⟩ := of_decide_eq_true hcheck
    have hr : Reaches (small true) c := (run_of_replay hc).reaches
    have hv : Voyage 0 (.ok ["nowhere", "10.0"]) (fun _ _ => True) b (b.chronicle ts) d :=
      ⟨story_of_replay hd, fun x hx => (hdeeds x hx).1, fun x hx => (hdeeds x hx).2.1⟩
    have hno : NoSubnets (.ok ["nowhere", "10.0"]) := by
      show named _ = []
      decide +kernel
    have haborts := (sweep_of_answer (small_isNew true) hr 0).1 _ b _ d hno hidle hb hv
      fun x hx => (hdeeds x hx).2.2
    exact ⟨c, b, _, d, hr, hb, hv, harmed, haborts.fruitless hover⟩
  · let c := pair.requestSweep none
    have hcheck : (c.take (.embark 0)).any (fun b => (b.replay pairTurns).any fun d =>
        decide (¬ d.InFlight 0 ∧ ∀ x ∈ b.chronicle pairTurns, x.before.InFlight 0 ∧
          x.turn.Keeps (.ok ["nowhere", "192.168.1"]) (fun _ _ => True) x.before ∧
          x.turn.isPause = false)) = true := by
      decide +kernel
    obtain ⟨b, hb, hcheck⟩ := (Option.any_eq_true _ _).mp hcheck
    obtain ⟨d, hd, hcheck⟩ := (Option.any_eq_true _ _).mp hcheck
    obtain ⟨hover, hdeeds⟩ := of_decide_eq_true hcheck
    have hr : Reaches pair c := .step (t := .requestSweep) .refl rfl
    have hbegins : c.Begins 0 b := by
      refine ⟨rfl, fun p hp => ?_, hb⟩
      cases hp
      rfl
    have hv : Voyage 0 (.ok ["nowhere", "192.168.1"]) (fun _ _ => True) b
        (b.chronicle pairTurns) d :=
      ⟨story_of_replay hd, fun x hx => (hdeeds x hx).1, fun x hx => (hdeeds x hx).2.1⟩
    have hsifts := (sweep_of_answer pair_isRestored.isNew hr 0).2.1 _ b _ d (by decide +kernel)
      hbegins hv fun x hx => (hdeeds x hx).2.2
    refine ⟨b, d, hbegins, hv, hsifts.complains fun hp => hover ⟨_, hp, rfl⟩, ?_⟩
    exact (hsifts.covers hover).mpr (by decide)
  · let ts : List Turn :=
      [.embark 0, .pass ⟨7, 0⟩, .list 0 (.error (.interfaces "down")), .alarm, .alarm]
    have hcheck : ((small true).replay [.start]).any (fun c =>
        (c.take .alarm).any fun b => (b.replay ts).any fun d =>
          decide (c.steering.alarm? = some .ringing ∧ b.steering.alarm? = some (.following 0) ∧
            (∀ x ∈ b.record ts, x.turn.IsRound 0 (.error (.interfaces "down"))) ∧
            d.take .alarm = none ∧ (d.steering.phase? 0).any (·.isOver) = true ∧
            (∀ s ∈ d.sweeps, s.id ≤ 0) ∧ d.nextSweep = some ⟨307, 0⟩)) = true := by
      decide +kernel
    obtain ⟨c, hc, hcheck⟩ := (Option.any_eq_true _ _).mp hcheck
    obtain ⟨b, hb, hcheck⟩ := (Option.any_eq_true _ _).mp hcheck
    obtain ⟨d, hd, hcheck⟩ := (Option.any_eq_true _ _).mp hcheck
    obtain ⟨hring, hfollow, hround, hwaits, hover, hlatest, hnext⟩ := of_decide_eq_true hcheck
    have hr : Reaches (small true) c := (run_of_replay hc).reaches
    have hk : Run b (b.record ts) d := run_of_replay hd
    have hretries := (sweep_of_answer (small_isNew true) hr 0).2.2 (.error (.interfaces "down"))
      b _ d trivial hb ⟨⟨rfl, hring⟩, hfollow⟩ hk hround
    obtain ⟨φ, hφ, hφover⟩ := (Option.any_eq_true _ _).mp hover
    obtain ⟨-, -, -, -, hpunctual⟩ := hretries.due hwaits ⟨φ, hφ, hφover⟩ hlatest
    exact ⟨c, b, _, d, hr, hb, hk, hretries, hnext, hpunctual⟩

/-- **`mixed_list_unswept`** — with options that pass the check, a sweep that is told one name of a
subnet and one other complains about the other and fails without having turned to any address. -/
theorem mixed_list_unswept :
    tooWide.options.IsValid ∧
      tooWide.options.itinerary (.ok ["nowhere", "192.168.1"]) = [⟨192, 168, 1, 1⟩] ∧
      ∃ d, tooWide.replay
          [.requestSweep, .embark 0, .list 0 (.ok ["nowhere", "192.168.1"])] = some d ∧
        d.faults = [(SubnetError.invalid "nowhere").message] ∧
        d.steering.phase? 0 = some .crashed ∧ d.dispatched = 0 := by
  refine ⟨by decide, by decide +kernel, ?_⟩
  have hd : (tooWide.replay
      [.requestSweep, .embark 0, .list 0 (.ok ["nowhere", "192.168.1"])]).any (fun d =>
      decide (d.faults = [(SubnetError.invalid "nowhere").message] ∧
        d.steering.phase? 0 = some .crashed ∧ d.dispatched = 0)) = true := by
    decide +kernel
  obtain ⟨d, hd, hp⟩ := (Option.any_eq_true _ _).mp hd
  exact ⟨d, hd, of_decide_eq_true hp⟩

end Census

end LanCensus
