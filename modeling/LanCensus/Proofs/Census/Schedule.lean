/-
# LanCensus.Proofs.Census.Schedule -- what listeners know of the schedule

Whoever listens to a census from its creation knows its schedule: the next sweep is due at the instant
that was announced last, and the last sweep was completed at the instant that was announced last. No
announcement of a deadline repeats the one before it. That a sweep was completed is announced once by each
sweep that has marked the devices offline and has ended, and by nothing else: a sweep that had no
subnets, one that a pause stopped before it set out, one that was turned away and one that failed say
nothing (`Announced`).

None of this needs the clock to go on. A tale is a story in which the clock may be set at any time, to an
earlier instant perhaps; only the order of the completions rests on a clock that was not set back.

What matters of a sweep is whether it has set out and how it is over, its `Stage`. `Passage` lists what a
turn can do to it, and `Tallies` is what the stage says about the past.
-/

import LanCensus.Proofs.Census.Announcements
import LanCensus.Proofs.Census.Course
import LanCensus.Proofs.Census.Muted
import LanCensus.Proofs.Census.Timetable
import LanCensus.Proofs.Instants

namespace LanCensus

/-- The sweep that has its turn. -/
def Turn.sweep? : Turn → Option Nat
  | .embark id | .list id _ | .collapse id | .proceed id => some id
  | _ => none

theorem Turn.sweep?_of_isStart {t : Turn} (h : t.isStart = true) : t.sweep? = none := by
  cases t with
  | start | resume => rfl
  | _ => cases h

/-! ## Tales -/

namespace Deed

/-- What was announced with the turn. -/
def announced (x : Deed) : List Notice :=
  x.after.notices.take (x.after.notices.length - x.before.notices.length)

/-- The completions that were announced with the turn. -/
def completions (x : Deed) : List Instant := x.announced.filterMap Notice.completion?

/-- The completions that the sweep announces with the turn. -/
def completionsOf (id : Nat) (x : Deed) : List Instant :=
  if x.turn.sweep? = some id then x.completions else []

/-- The sweep with the number sets out with the turn, and so marks every device offline. -/
def sendsOut (id : Nat) (x : Deed) : Prop := x.setsOut ∧ x.turn.sweep? = some id

/-- **`Happens x`** — a turn is taken, or the clock is set, whichever instant it showed before. It may be
set forward and back again around a turn, so a wait may also end by another clock than the one that is
shown. -/
inductive Happens : Deed → Prop
  | turn {c e : Census} {t : Turn} : c.take t = some e → Happens ⟨c, t, e⟩
  | set (c : Census) (n : Instant) : Happens ⟨c, .pass n, { c with now := n }⟩

end Deed

namespace Census

/-- **`Tale c h d`** — the deeds of the history `h`, the latest in front, lead from `c` to `d`, and among
them the clock may have been set. -/
inductive Tale (c : Census) : List Deed → Census → Prop
  | start : Tale c [] c
  | deed {h : List Deed} {x : Deed} : Tale c h x.before → x.Happens → Tale c (x :: h) x.after

variable {c d e : Census} {h k : List Deed}

theorem Tale.append (ht : Tale c h d) (hk : Tale d k e) : Tale c (k ++ h) e := by
  induction hk with
  | start => exact ht
  | deed _ hx ih => exact ih.deed hx

/-- A story is a tale in which the clock is not set. -/
theorem Story.tale (hs : Story c h d) : Tale c h d := by
  induction hs with
  | start => exact .start
  | turn _ ht ih => exact ih.deed (.turn ht)

/-- A tale of turns, of the clock being set to `n`, and of further turns. -/
theorem tale_of_replay {ts us : List Turn} {n : Instant} (hd : c.replay ts = some d)
    (he : ({ d with now := n } : Census).replay us = some e) :
    Tale c (({ d with now := n } : Census).chronicle us ++
      ⟨d, .pass n, { d with now := n }⟩ :: c.chronicle ts) e :=
  ((story_of_replay hd).tale.deed (.set d n)).append (story_of_replay he).tale

end Census

/-- The sweep has marked the devices offline. -/
def HasSentOut (id : Nat) (h : List Deed) : Prop := ∃ x ∈ h, x.sendsOut id

/-- The completions that the sweep has announced, the latest first. -/
def completionsBy (id : Nat) (h : List Deed) : List Instant := h.flatMap (Deed.completionsOf id)

/-- **`Announced h d`** — after the history `h` the census `d` has announced its schedule. -/
structure Announced (h : List Deed) (d : Census) : Prop where
  next : d.nextSweep = d.deadlines.headD none
  last : d.lastSweep = d.completions.head?
  changes : d.deadlines.IsChain (· ≠ ·)
  /-- The completions were announced with the turns of sweeps, at most one with each. -/
  turns : d.completions = h.flatMap Deed.completions ∧
    ∀ x ∈ h, x.completions = [] ∨ ∃ id, x.turn = .proceed id ∧ x.completions = [x.before.now]
  /-- A sweep that has marked the devices offline and has ended has announced it once. -/
  once : ∀ id l, HasSentOut id h → d.steering.phase? id = some (.ended l) →
    ∃ time, completionsBy id h = [time]
  /-- No other one has. -/
  never : ∀ id, ¬ (HasSentOut id h ∧ ∃ l, d.steering.phase? id = some (.ended l)) →
    completionsBy id h = []
  /-- As long as the clock is not set back, no sweep is completed before one that was completed earlier. -/
  ordered : (∀ x ∈ h, x.before.now ≤ x.after.now) →
    d.completions.Pairwise fun later earlier => earlier ≤ later

/-! ## Completions of a turn -/

namespace Deed

variable {x : Deed} {id : Nat}

theorem Happens.orderly (hx : x.Happens) (ho : Orderly x.before.steering) :
    Orderly x.after.steering := by
  cases hx with
  | turn ht => exact ho.moves (Census.take_moves ht)
  | set => exact ⟨ho.valid, ho.sweeps, ho.timer⟩

theorem Happens.isMirrored (hx : x.Happens) (hm : x.before.timetable.IsMirrored) :
    x.after.timetable.IsMirrored := by
  cases hx with
  | turn ht => exact Census.isMirrored_take hm ht
  | set => exact hm

theorem Happens.adds (hx : x.Happens) : Census.Adds x.before x.after := by
  cases hx with
  | turn ht => exact Census.adds_take ht
  | set => exact .refl _

/-- What was announced before stays announced. -/
theorem Happens.completions_append (hx : x.Happens) :
    x.after.completions = x.completions ++ x.before.completions := by
  obtain ⟨later, hlater⟩ := hx.adds
  have hannounced : x.announced = later := by
    rw [announced, ← hlater, List.length_append, Nat.add_sub_cancel, List.take_left]
  rw [completions, hannounced, Census.completions, ← hlater, List.filterMap_append]
  rfl

/-- **`Happens.completions_eq`** — the last turn of a sweep that dispatches no more announces that it was
completed, and no other turn announces a completion. -/
theorem Happens.completions_eq (hx : x.Happens) :
    (x.before.Completes x.turn ∧ x.completions = [x.before.now]) ∨
      (¬ x.before.Completes x.turn ∧ x.completions = []) := by
  have happend := hx.completions_append
  cases hx with
  | @turn c e t ht =>
      have harr := Census.take_arranges ht
      generalize hT : e.timetable = T at harr
      have hcompletions : e.completions = T.completions := congrArg Timetable.completions hT
      rw [hcompletions] at happend
      cases harr with
      | plan due hn =>
          rw [Timetable.completions_plan] at happend
          exact .inr ⟨hn, List.self_eq_append_left.mp happend⟩
      | complete due hc =>
          rw [Timetable.completions_plan] at happend
          have hlatest : [c.now] ++ c.completions = completions ⟨c, t, e⟩ ++ c.completions := happend
          exact .inl ⟨hc, (List.append_cancel_right hlatest).symm⟩
  | set c n => exact .inr ⟨Census.not_completes_of_turn rfl, List.self_eq_append_left.mp happend⟩

theorem Happens.completions_eq_nil (hx : x.Happens) (hn : ¬ x.before.Completes x.turn) :
    x.completions = [] :=
  (hx.completions_eq.resolve_left fun hc => hn hc.1).2

/-- A sweep that does not have its turn announces nothing. -/
theorem completionsOf_of_ne (hn : x.turn.sweep? ≠ some id) : x.completionsOf id = [] := if_neg hn

end Deed

/-! ## Stages of a sweep -/

/-- **`Stage`** — how far a sweep has come: it has not set out, it is under way, or it is over. -/
inductive Stage where
  | early
  | underWay
  | ended
  | crashed

/-- The stage of a phase. -/
def Sweep.Phase.stage : Phase → Stage
  | .queued _ | .listing => .early
  | .ready | .waiting | .resting _ | .draining => .underWay
  | .ended _ => .ended
  | .crashed => .crashed

/-- A sweep that turns to its addresses is under way. -/
theorem Sweep.underWay_of_ready {s : Sweep} (h : s.phase = .ready ∨ s.phase = .waiting) :
    s.phase.stage = .underWay ∧ s.phase ≠ .draining := by
  rcases h with h | h <;> rw [h] <;> exact ⟨rfl, nofun⟩

/-- The stage of the sweep with the given number, which may not have been asked for yet. -/
def Steering.stage (σ : Steering) (id : Nat) : Stage :=
  match σ.phase? id with
  | some φ => φ.stage
  | none => .early

namespace Steering

variable {σ τ : Steering} {id : Nat} {s : Sweep}

theorem stage_congr (h : τ.phase? id = σ.phase? id) : τ.stage id = σ.stage id := by
  rw [stage, stage, h]

theorem stage_of_sweep? (hs : σ.sweep? id = some s) : σ.stage id = s.phase.stage := by
  rw [stage, phase?, hs]
  rfl

theorem stage_put_of_ne (hne : id ≠ s.id) : (σ.put s).stage id = σ.stage id :=
  stage_congr (congrArg (Option.map _) (sweep?_put_of_ne hne))

theorem stage_eq_ended_iff : σ.stage id = .ended ↔ ∃ l, σ.phase? id = some (.ended l) := by
  constructor
  · intro hs
    unfold stage at hs
    split at hs
    · next φ hp =>
      cases φ with
      | ended l => exact ⟨l, hp⟩
      | _ => cases hs
    · cases hs
  · rintro ⟨l, hp⟩
    rw [stage, hp]
    rfl

end Steering

/-- A sweep that has just been asked for has not set out, as one that has not been asked for. -/
theorem Orderly.stage_ask {σ : Steering} (h : Orderly σ) (p : Option Nat) (id : Nat) :
    (σ.ask p).stage id = σ.stage id := by
  by_cases hid : id = σ.fresh
  · subst hid
    have hnone : σ.sweep? σ.fresh = none := by
      cases hs : σ.sweep? σ.fresh with
      | none => rfl
      | some s =>
          have hlt := h.sweeps.below s (Steering.mem_of_sweep? hs)
          rw [Steering.id_of_sweep? hs] at hlt
          exact absurd hlt (Nat.lt_irrefl _)
    have hasked : (σ.ask p).sweep? σ.fresh = some (.queued σ.fresh p σ.options) :=
      List.find?_cons_of_pos (beq_self_eq_true _)
    rw [Steering.stage_of_sweep? hasked, Steering.stage, Steering.phase?, hnone]
    rfl
  · exact Steering.stage_congr (congrArg (Option.map _) (Steering.sweep?_ask_of_ne hid p))

/-- A sweep that does not have its turn stays at its stage. -/
theorem Moves.stage_eq {σ τ : Steering} {t : Turn} {id : Nat} (hm : Moves σ t τ) (ho : Orderly σ)
    (hne : t.sweep? ≠ some id) : τ.stage id = σ.stage id := by
  have hother : ∀ {n : Nat}, some n ≠ some id → id ≠ n := fun h he => h (congrArg some he.symm)
  cases hm with
  | keepArmed | armTimer | pause | refuse | adopt | disband | remove | lookUp | endLookup | ping
  | alarmOff | alarmSet | alarmRing | tickOff | tick | pass => rfl
  | alarmBusy | alarmFollow =>
      obtain ⟨n, hn⟩ := σ.planAhead_eq
      rw [hn]
      rfl
  | armOnce | request | alarmAsk => exact ho.stage_ask _ id
  | turnAway | embark | abort | callOff | overload | setOut | collapse | await | stop | dispatch
  | stumble | wake => exact Steering.stage_put_of_ne (hother hne)
  | complete =>
      obtain ⟨n, hn⟩ := σ.publish_eq _
      rw [hn]
      exact Steering.stage_put_of_ne (hother hne)
  | endProbe => exact Steering.stage_congr (Steering.phase?_release ..)

/-! ## Passages -/

/-- **`Passage a out ts a'`** — a turn leads a sweep from the stage `a` to `a'`. It sets out with the turn
if `out`, and announces the completions `ts`. -/
inductive Passage : Stage → Prop → List Instant → Stage → Prop
  | stay {a : Stage} {out : Prop} : ¬ out → Passage a out [] a
  | halt {out : Prop} : ¬ out → Passage .early out [] .ended
  | setOut {out : Prop} : out → Passage .early out [] .underWay
  | overload {out : Prop} : out → Passage .early out [] .crashed
  | collapse {out : Prop} : ¬ out → Passage .early out [] .crashed
  | stumble {out : Prop} : ¬ out → Passage .underWay out [] .crashed
  | complete {out : Prop} {time : Instant} : ¬ out → Passage .underWay out [time] .ended

/-- A sweep that has its turn gives its place to itself in another phase. -/
theorem Passage.put {σ υ : Steering} {s s' : Sweep} {id : Nat} {out : Prop} {ts : List Instant}
    (he : s.id = id) (hυ : υ.sweeps = σ.sweeps) (hs : σ.sweep? s.id = some s) (hid : s'.id = s.id)
    (hp : Passage s.phase.stage out ts s'.phase.stage) :
    Passage (σ.stage id) out ts ((υ.put s').stage id) := by
  subst he
  have hsυ : υ.sweep? s.id = some s := by
    rw [Steering.sweep?, hυ]
    exact hs
  have hput : (υ.put s').sweep? s.id = some s' := Steering.sweep?_put_self hsυ hid
  rw [Steering.stage_of_sweep? hs, Steering.stage_of_sweep? hput]
  exact hp

/-- **`Tallies a out ts`** — what the stage of a sweep says of its past: whether it has set out, and which
completions it has announced. -/
inductive Tallies : Stage → Prop → List Instant → Prop
  | early {out : Prop} : ¬ out → Tallies .early out []
  | underWay {out : Prop} : out → Tallies .underWay out []
  | idle {out : Prop} : ¬ out → Tallies .ended out []
  | completed {out : Prop} {time : Instant} : out → Tallies .ended out [time]
  | crashed {out : Prop} : Tallies .crashed out []

theorem Tallies.pass {a a' : Stage} {out now : Prop} {ts later : List Instant}
    (h : Tallies a out ts) (hp : Passage a now later a') :
    Tallies a' (now ∨ out) (later ++ ts) := by
  cases hp with
  | stay hn =>
      rw [or_iff_right hn]
      exact h
  | halt hn =>
      cases h with
      | early ho => exact .idle (not_or.mpr ⟨hn, ho⟩)
  | setOut hy =>
      cases h with
      | early => exact .underWay (.inl hy)
  | overload | collapse =>
      cases h with
      | early => exact .crashed
  | stumble =>
      cases h with
      | underWay => exact .crashed
  | complete =>
      cases h with
      | underWay ho => exact .completed (.inr ho)

namespace Deed

open Steering

variable {x : Deed} {id : Nat}

theorem not_sendsOut_of_turn (hn : ∀ n names, x.turn ≠ .list n (.ok names)) : ¬ x.sendsOut id :=
  fun hs => not_setsOut_of_turn hn hs.1

/-- The turn of a sweep leads it on as `Passage` says. -/
theorem passage_of_take {c e : Census} {t : Turn} (ht : c.take t = some e)
    (hid : t.sweep? = some id) :
    Passage (c.steering.stage id) (sendsOut id ⟨c, t, e⟩) (completions ⟨c, t, e⟩)
      (e.steering.stage id) := by
  have hnil := Happens.completions_eq_nil (.turn ht)
  have hm := Census.take_moves ht
  generalize e.steering = τ at hm
  cases hm with
  | keepArmed hs | armTimer hs | armOnce hs =>
      rw [Turn.sweep?_of_isStart hs] at hid
      cases hid
  | turnAway hs hp _ =>
      refine .put (Option.some.inj hid) rfl hs rfl ?_
      rw [hp, hnil (Census.not_completes_of_turn rfl)]
      exact .halt (not_sendsOut_of_turn nofun)
  | embark hs hp _ =>
      refine .put (Option.some.inj hid) rfl hs rfl ?_
      rw [hp, hnil (Census.not_completes_of_turn rfl)]
      exact .stay (not_sendsOut_of_turn nofun)
  | abort hs hp hno =>
      refine .put (Option.some.inj hid) rfl hs rfl ?_
      rw [hp, hnil (Census.not_completes_of_turn rfl)]
      refine .halt ?_
      rintro ⟨⟨u, names, -, -, hu, hn, -⟩, -⟩
      obtain ⟨-, rfl⟩ := Turn.list.inj hu
      exact hn hno
  | callOff hs hp _ hq =>
      refine .put (Option.some.inj hid) rfl hs rfl ?_
      rw [hp, hnil (Census.not_completes_of_turn rfl)]
      refine .halt ?_
      rintro ⟨⟨u, names, hu, -, hturn, -, hpauses⟩, -⟩
      rw [← (Turn.list.inj hturn).1] at hu
      obtain rfl := Option.some.inj (hs.symm.trans hu)
      exact hq hpauses
  | @overload s names hs hp hn hq _ =>
      refine .put (Option.some.inj hid) rfl hs rfl ?_
      rw [hp, hnil (Census.not_completes_of_turn rfl)]
      exact .overload ⟨⟨s, names, hs, hp, rfl, hn, hq⟩, hid⟩
  | @setOut s names hs hp hn hq _ =>
      refine .put (Option.some.inj hid) rfl hs rfl ?_
      rw [hp, hnil (Census.not_completes_of_turn rfl)]
      exact .setOut ⟨⟨s, names, hs, hp, rfl, hn, hq⟩, hid⟩
  | collapse hs hp =>
      refine .put (Option.some.inj hid) rfl hs rfl ?_
      rw [hp, hnil (Census.not_completes_of_turn rfl)]
      exact .collapse (not_sendsOut_of_turn nofun)
  | await hs hp | wake hs hp =>
      refine .put (Option.some.inj hid) rfl hs rfl ?_
      rw [hp, hnil (Census.not_completes_of_phase hs (by simp [hp]))]
      exact .stay (not_sendsOut_of_turn nofun)
  | stop hs hp =>
      obtain ⟨hstage, hnot⟩ := Sweep.underWay_of_ready hp
      refine .put (Option.some.inj hid) rfl hs rfl ?_
      rw [hstage, hnil (Census.not_completes_of_phase hs hnot)]
      exact .stay (not_sendsOut_of_turn nofun)
  | dispatch hs hp _ _ _ hφ =>
      obtain ⟨hstage, hnot⟩ := Sweep.underWay_of_ready hp
      refine .put (Option.some.inj hid) rfl hs rfl ?_
      rw [hstage, hnil (Census.not_completes_of_phase hs hnot)]
      rcases hφ with rfl | ⟨w, rfl⟩ <;> exact .stay (not_sendsOut_of_turn nofun)
  | stumble hs hp =>
      obtain ⟨hstage, hnot⟩ := Sweep.underWay_of_ready hp
      refine .put (Option.some.inj hid) rfl hs rfl ?_
      rw [hstage, hnil (Census.not_completes_of_phase hs hnot)]
      exact .stumble (not_sendsOut_of_turn nofun)
  | @complete s _ hs hp =>
      have htime := Happens.completions_eq (.turn ht)
      obtain ⟨n, hn⟩ := c.steering.publish_eq s
      rw [hn]
      refine .put (Option.some.inj hid) rfl hs rfl ?_
      rw [hp, (htime.resolve_right fun h => h.1 ⟨s, rfl, hs, hp⟩).2]
      exact .complete (not_sendsOut_of_turn nofun)
  | _ => cases hid

/-- **`Happens.passage`** — whatever happens leads a sweep on as `Passage` says. -/
theorem Happens.passage (hx : x.Happens) (ho : Orderly x.before.steering) (id : Nat) :
    Passage (x.before.steering.stage id) (x.sendsOut id) (x.completionsOf id)
      (x.after.steering.stage id) := by
  by_cases hid : x.turn.sweep? = some id
  · rw [completionsOf, if_pos hid]
    cases hx with
    | set => cases hid
    | turn ht => exact passage_of_take ht hid
  -- Others have their turn.
  · have hstage : x.after.steering.stage id = x.before.steering.stage id := by
      cases hx with
      | turn ht => exact (Census.take_moves ht).stage_eq ho hid
      | set => rfl
    rw [completionsOf_of_ne hid, hstage]
    exact .stay fun hs => hid hs.2

end Deed

/-! ## Along a tale -/

namespace Census

open Steering

variable {c d : Census} {h : List Deed}

theorem Tale.orderly (ht : Tale c h d) (hc : c.IsNew) : Orderly d.steering := by
  induction ht with
  | start => exact hc.orderly
  | deed _ hx ih => exact hx.orderly ih

theorem Tale.happens (ht : Tale c h d) : ∀ x ∈ h, x.Happens := by
  induction ht with
  | start => exact fun x hx => nomatch hx
  | deed _ hx ih => exact List.forall_mem_cons.mpr ⟨hx, ih⟩

theorem Tale.isMirrored (ht : Tale c h d) (hc : c.IsNew) : d.timetable.IsMirrored := by
  induction ht with
  | start =>
      obtain ⟨now, o, r, rfl, -⟩ := hc.eq_initial
      exact ⟨rfl, rfl, .nil⟩
  | deed _ hx ih => exact hx.isMirrored ih

theorem Tale.completions_eq (ht : Tale c h d) (hc : c.IsNew) :
    d.completions = h.flatMap Deed.completions := by
  induction ht with
  | start =>
      obtain ⟨now, o, r, rfl, -⟩ := hc.eq_initial
      rfl
  | deed _ hx ih => rw [hx.completions_append, ih, List.flatMap_cons]

/-- **`Tale.tallies`** — the stage of a sweep tells its past. -/
theorem Tale.tallies (ht : Tale c h d) (hc : c.IsNew) (id : Nat) :
    Tallies (d.steering.stage id) (HasSentOut id h) (completionsBy id h) := by
  induction ht with
  | start =>
      obtain ⟨now, o, r, rfl, -⟩ := hc.eq_initial
      exact .early fun ⟨x, hx, _⟩ => nomatch hx
  | deed ht hx ih =>
      have hpass := ih.pass (hx.passage (ht.orderly hc) id)
      rw [HasSentOut, List.exists_mem_cons_iff, completionsBy, List.flatMap_cons]
      exact hpass

/-- What has been completed was completed when the clock had not gone further than now. -/
theorem Tale.completions_le (ht : Tale c h d) (hc : c.IsNew)
    (hclock : ∀ x ∈ h, x.before.now ≤ x.after.now) :
    (∀ time ∈ d.completions, time ≤ d.now) ∧
      d.completions.Pairwise fun later earlier => earlier ≤ later := by
  induction ht with
  | start =>
      obtain ⟨now, o, r, rfl, -⟩ := hc.eq_initial
      exact ⟨nofun, .nil⟩
  | @deed h x _ hx ih =>
      obtain ⟨hnow, hclock⟩ := List.forall_mem_cons.mp hclock
      obtain ⟨hle, hordered⟩ := ih hclock
      have hle' : ∀ time ∈ x.before.completions, time ≤ x.after.now :=
        fun time htime => Instant.le_trans (hle time htime) hnow
      rw [hx.completions_append]
      rcases hx.completions_eq with ⟨-, htime⟩ | ⟨-, htime⟩ <;> rw [htime]
      · exact ⟨List.forall_mem_cons.mpr ⟨hnow, hle'⟩, List.pairwise_cons.mpr ⟨hle, hordered⟩⟩
      · exact ⟨hle', hordered⟩

/-- **`schedule_mirrored`** — whatever happens to a census, its schedule is what it has announced. -/
theorem schedule_mirrored (hc : c.IsNew) (ht : Tale c h d) : Announced h d := by
  have hmirrored := ht.isMirrored hc
  refine ⟨hmirrored.next, hmirrored.last, hmirrored.changes, ⟨ht.completions_eq hc, ?_⟩, ?_, ?_,
    fun hclock => (ht.completions_le hc hclock).2⟩
  · intro x hx
    rcases (ht.happens x hx).completions_eq with ⟨⟨s, hs, -⟩, htime⟩ | ⟨-, hnil⟩
    · exact .inr ⟨s.id, hs, htime⟩
    · exact .inl hnil
  · intro id l hout hp
    have htallies := ht.tallies hc id
    rw [stage_eq_ended_iff.mpr ⟨l, hp⟩] at htallies
    generalize completionsBy id h = ts at htallies ⊢
    cases htallies with
    | idle hn => exact absurd hout hn
    | completed => exact ⟨_, rfl⟩
  · intro id hn
    have htallies := ht.tallies hc id
    generalize hstage : d.steering.stage id = a at htallies
    generalize completionsBy id h = ts at htallies ⊢
    cases htallies with
    | completed hout => exact absurd ⟨hout, stage_eq_ended_iff.mp hstage⟩ hn
    | _ => rfl

/-- What happens to a small census after the nap of its timer: a sweep that its owner asks for, another one
that has no subnets, and a pause. -/
def smallRest : List Turn :=
  [.requestSweep, .embark 2] ++ smallSweep 2 3 ++ [.requestSweep, .embark 4, .list 4 (.ok []), .pause]

/-- The clock goes on by an hour between the sweep of the timer and the one of the owner. -/
theorem small_schedule_mirrored :
    ∃ h d, (small true).IsNew ∧ Tale (small true) h d ∧ Announced h d ∧
      d.deadlines = [none, some ⟨3900, 0⟩, some ⟨300, 0⟩] ∧
      d.completions = [⟨3600, 0⟩, ⟨0, 0⟩] ∧ HasSentOut 2 h ∧ completionsBy 2 h = [⟨3600, 0⟩] ∧
      completionsBy 4 h = [] ∧ ∀ x ∈ h, x.before.now ≤ x.after.now := by
  let clock (d : Census) : Census := { d with now := ⟨3600, 0⟩ }
  let deeds (d : Census) : List Deed := (clock d).chronicle smallRest ++
    ⟨d, .pass ⟨3600, 0⟩, clock d⟩ :: (small true).chronicle smallNap
  have hcheck : ((small true).replay smallNap).any (fun d => ((clock d).replay smallRest).any fun e =>
      decide (e.deadlines = [none, some ⟨3900, 0⟩, some ⟨300, 0⟩] ∧
        e.completions = [⟨3600, 0⟩, ⟨0, 0⟩] ∧ completionsBy 2 (deeds d) = [⟨3600, 0⟩] ∧
        completionsBy 4 (deeds d) = [] ∧ ∀ x ∈ deeds d, x.before.now ≤ x.after.now)) = true := by
    decide +kernel
  obtain ⟨d, hd, hcheck⟩ := (Option.any_eq_true _ _).mp hcheck
  obtain ⟨e, he, hp⟩ := (Option.any_eq_true _ _).mp hcheck
  obtain ⟨hdeadlines, hcompletions, htwo, hfour, hclock⟩ := of_decide_eq_true hp
  have ht : Tale (small true) (deeds d) e := tale_of_replay hd he
  have hm : Announced (deeds d) e := schedule_mirrored (small_isNew true) ht
  -- Only a sweep that has marked the devices offline announces a completion.
  have hout : HasSentOut 2 (deeds d) := by
    by_contra hno
    have hnil := hm.never 2 fun h => hno h.1
    rw [htwo] at hnil
    cases hnil
  exact ⟨_, e, small_isNew true, ht, hm, hdeadlines, hcompletions, hout, htwo, hfour, hclock⟩

/-- **`completions_unordered`** — after the clock was set back a sweep is completed at an earlier instant
than the one before it. -/
theorem completions_unordered :
    ∃ h d, Tale (small true) h d ∧ d.completions = [⟨-60, 0⟩, ⟨0, 0⟩] := by
  have hcheck : ((small true).replay smallNap).any (fun d =>
      (({ d with now := ⟨-60, 0⟩ } : Census).replay smallRest).any fun e =>
        decide (e.completions = [⟨-60, 0⟩, ⟨0, 0⟩])) = true := by
    decide +kernel
  obtain ⟨d, hd, hcheck⟩ := (Option.any_eq_true _ _).mp hcheck
  obtain ⟨e, he, hp⟩ := (Option.any_eq_true _ _).mp hcheck
  exact ⟨_, e, tale_of_replay hd he, of_decide_eq_true hp⟩

end Census

end LanCensus
