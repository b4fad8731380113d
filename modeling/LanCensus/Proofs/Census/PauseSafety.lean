/-
# LanCensus.Proofs.Census.PauseSafety -- what a pause stops, and what it does not

Pausing is cooperative: a pause counts up a number and drops the timer, and whatever was going on finds
out at its next turn. `pause_safe` says what comes of this, at whichever moment the pause takes effect
and however often sweeping is started or resumed afterwards.

A sweep that had begun, or that a timer or a start had asked for, dispatches nothing any more. Its
probes are not lost: each can go on until it ends, its result is written down, and the sweep waits for
it. A sweep that had not set out changes nothing that the census keeps. And a sweep that begins later
on its owner's request covers all its addresses, unless it is paused itself.

It has to begin for that. A request that comes while the paused sweep still waits for its probes is
turned away, as any request is while a sweep is in flight (`request_turned_away`).
-/

import LanCensus.Proofs.Census.Muted
import LanCensus.Proofs.Census.Progress

namespace LanCensus

/-- The inventory, the number of dispatched probes, and when the last sweep was completed. -/
def Records.tally (R : Records) : Inventory × Nat × Option Instant :=
  (R.inventory, R.dispatched, R.lastSweep)

/-- The deed is one of the sweep with the number, or of a probe of it. -/
def Deed.isOf (id : Nat) (x : Deed) : Prop :=
  match x.turn with
  | .embark n | .list n _ | .collapse n | .proceed n => n = id
  | .ping n | .endProbe n _ => ∃ p ∈ x.before.probes, p.id = n ∧ p.sweep = id
  | _ => False

/-- The probe has ended in the history, and its outcome was written down at once. -/
def Probe.HasLanded (p : Probe) (h : List Deed) : Prop :=
  ∃ x ∈ h, ∃ o, x.turn = .endProbe p.id o ∧
    x.after.records = x.before.records.settle p.address x.before.now o

/-- The probe is under way, whether it has pinged its address or not. -/
def Probe.IsAmong (p : Probe) (ps : List Probe) : Prop :=
  ∃ q ∈ ps, q.id = p.id ∧ q.sweep = p.sweep ∧ q.address = p.address

/-! ## Probes that are under way -/

namespace Census

variable {c d e : Census} {s s' : Sweep} {t : Turn} {ps : List Probe} {R : Records} {p : Probe}

/-- A probe stays under way until it ends. -/
theorem Advance.isAmong (h : c.Advance s t ps s' R) (hn : Numbered c.steering)
    (hp : p.IsAmong c.probes) :
    p.IsAmong ps ∨ ∃ o, t = .endProbe p.id o ∧ R = c.records.settle p.address c.now o := by
  obtain ⟨q, hq, hid, hsweep, haddress⟩ := hp
  have hkeep : q ∈ ps → p.IsAmong ps := fun hq => ⟨q, hq, hid, hsweep, haddress⟩
  -- A sweep that has not set out has no probes, and neither has one that is completed.
  have hnone : c.probes = [] → p.IsAmong ps := by
    intro hnil
    rw [hnil] at hq
    cases hq
  cases h with
  | aside | remove | await | stop | wake => exact .inl (hkeep hq)
  | halt _ hnil | overload _ hnil | setOut _ hnil | collapse _ hnil | complete _ hnil =>
      exact .inl (hnone hnil)
  | dispatch => exact .inl (hkeep (List.mem_append_left _ hq))
  | ping =>
      refine .inl ⟨_, List.mem_map_of_mem hq, ?_⟩
      split <;> exact ⟨hid, hsweep, haddress⟩
  | @endProbe r o b hr =>
      by_cases he : q.id = r.id
      · obtain rfl := hn.eq_of_id hq hr he
        refine .inr ⟨o, ?_, ?_⟩
        · rw [hid]
        · rw [haddress]
      · exact .inl (hkeep (List.mem_filter.mpr ⟨hq, decide_eq_true he⟩))

namespace IsRegular

variable (hreg : c.IsRegular)

include hreg

/-- The sweep of a probe under way is in flight. -/
theorem inFlight_of_mem (hp : p ∈ c.probes) : c.InFlight p.sweep := by
  obtain ⟨u, hu, hid, hset⟩ := hreg.supplied.belong p hp
  refine ⟨u.phase, ?_, Sweep.Phase.inFlight_of_hasSetOut hset⟩
  rw [← hid]
  exact Steering.phase?_of_sweep? (hreg.orderly.sweep?_of_mem hu)

theorem take_isAmong (ht : c.take t = some e) (hp : p.IsAmong c.probes) :
    p.IsAmong e.probes ∨
      ∃ o, t = .endProbe p.id o ∧ e.records = c.records.settle p.address c.now o := by
  have hp' := hp
  obtain ⟨q, hq, -⟩ := hp
  obtain ⟨u, hu, -, hset⟩ := hreg.supplied.belong q hq
  obtain ⟨u', -, hadv⟩ := advance_of_take hreg.orderly hreg.supplied
    (hreg.orderly.sweep?_of_mem hu) (Sweep.Phase.inFlight_of_hasSetOut hset) ht
  exact hadv.isAmong hreg.numbered hp'

/-- A probe that was under way is so still, or it has ended and its outcome has been written down. -/
theorem landed_or_among {h : List Deed} (hst : Story c h d) (hp : p.IsAmong c.probes) :
    p.HasLanded h ∨ p.IsAmong d.probes := by
  induction hst with
  | start => exact .inr hp
  | turn hst ht ih =>
      rcases ih with ⟨x, hx, hlanded⟩ | hp
      · exact .inl ⟨x, List.mem_cons_of_mem _ hx, hlanded⟩
      · rcases (hreg.reaches hst.run.reaches).take_isAmong ht hp with hp | ⟨o, hturn, hrecords⟩
        · exact .inr hp
        · exact .inl ⟨_, List.mem_cons_self, o, hturn, hrecords⟩

end IsRegular

/-! ## Sweeps that a pause has overtaken -/

section

variable {id : Nat} {b : Census} {h : List Deed}

/-- **`Story.spent`** — a stale sweep dispatches nothing any more. -/
theorem Story.spent (hst : Story b h d) (hreg : b.IsRegular) (hs : Spent b.steering id) :
    Spent d.steering id ∧ dispatchedBy id (h.map Deed.step) = [] := by
  induction hst with
  | start => exact ⟨hs, rfl⟩
  | @turn h d e t hst ht ih =>
      obtain ⟨hspent, hnil⟩ := ih
      have hm := take_moves ht
      refine ⟨hspent.moves hm, ?_⟩
      have hsupp := (hreg.reaches hst.run.reaches).supplied
      show dispatchedBy id (h.map Deed.step) ++ (Step.mk d.steering t e.steering).launched id = []
      rw [hnil, hspent.launched_eq_nil hsupp hm]
      rfl

/-- A stale sweep that has not set out changes none of what the census keeps. -/
theorem tally_eq_of_dormant {x : Deed} (ht : x.before.take x.turn = some x.after)
    (hreg : x.before.IsRegular) (hspent : Spent x.before.steering id)
    (hdormant : Dormant x.before.steering id) (hof : x.isOf id) :
    x.after.records.tally = x.before.records.tally := by
  obtain ⟨c, t, e⟩ := x
  -- It has no probes.
  have hprobe : ∀ q ∈ c.probes, q.sweep ≠ id := by
    intro q hq hsweep
    obtain ⟨u, hu, hid, hset⟩ := hreg.supplied.belong q hq
    cases (hdormant u hu (hid.trans hsweep)).symm.trans hset
  have hphase : ∀ {s}, c.steering.sweep? id = some s → s.phase.hasSetOut = false := fun hs =>
    hdormant _ (Steering.mem_of_sweep? hs) (Steering.id_of_sweep? hs)
  have hw := take_writes ht
  show e.records.tally = c.records.tally
  generalize e.records = R at hw
  cases hw with
  | nothing | removeUnknown | turnAway | embark | halt | hold | missUnknown | fail => rfl
  | remove => cases hof
  | setOut hs hp _ hq =>
      obtain rfl : _ = id := hof
      exact absurd hq (hspent.pauses_ne hs (by rw [hp]; rfl))
  | dispatch hs hp =>
      obtain rfl : _ = id := hof
      have hno := hphase hs
      rcases hp with hp | hp <;> rw [hp] at hno <;> cases hno
  | complete hs hp =>
      obtain rfl : _ = id := hof
      have hno := hphase hs
      rw [hp] at hno
      cases hno
  | miss | meet =>
      obtain ⟨q, hq, -, hsweep⟩ := hof
      exact absurd hsweep (hprobe q hq)

theorem Story.tally_eq (hst : Story b h d) (hreg : b.IsRegular) (hspent : Spent b.steering id)
    (hdormant : Dormant b.steering id) :
    Dormant d.steering id ∧ ∀ x ∈ h, x.isOf id → x.after.records.tally = x.before.records.tally := by
  induction hst with
  | start => exact ⟨hdormant, fun x hx => (by cases hx)⟩
  | @turn h d e t hst ht ih =>
      have hspent := (hst.spent hreg hspent).1
      refine ⟨ih.1.moves hspent (take_moves ht), List.forall_mem_cons.mpr ⟨?_, ih.2⟩⟩
      exact tally_eq_of_dormant (x := ⟨d, t, e⟩) ht (hreg.reaches hst.run.reaches) hspent ih.1

end

/-! ## The pause -/

/-- **`IsSafePause c b`** — the pause that leads from `c` to `b` stops what it should, and nothing
else. -/
structure IsSafePause (c b : Census) : Prop where
  /-- No timer is left that could ask for a sweep. -/
  timer : b.timer = none
  records : b.records = c.records
  /-- A sweep that had begun, or that a timer or a start had asked for, dispatches nothing. -/
  halts : ∀ {h d}, Story b h d → ∀ s ∈ c.sweeps, s.phase ≠ .queued none →
    dispatchedBy s.id (h.map Deed.step) = []
  /-- A probe under way ends as it would have. As long as it has not ended its sweep waits for it, and
  it can ping its address or end, whatever its outcome. -/
  lands : ∀ {h d}, Story b h d → ∀ p ∈ c.probes, p.HasLanded h ∨
    d.InFlight p.sweep ∧ p.IsAmong d.probes ∧
      ((d.take (.ping p.id)).isSome ∨ ∀ o, (d.take (.endProbe p.id o)).isSome)
  /-- A sweep that had not set out leaves the inventory, the number of dispatched probes and the
  completion of the last sweep alone. -/
  spares : ∀ {h d}, Story b h d → ∀ s ∈ c.sweeps, s.phase ≠ .queued none →
    s.phase.hasSetOut = false → ∀ x ∈ h, x.isOf s.id →
      x.after.records.tally = x.before.records.tally
  /-- A sweep that its owner asks for, and that begins after the pause, covers its itinerary unless it
  is paused itself. -/
  frees : ∀ {e f d h id answer}, Reaches b e → e.steering.phase? id = some (.queued none) →
    e.sweeping = false → e.take (.embark id) = some f →
    Voyage id answer (fun _ _ => True) f h d → (∀ x ∈ h, x.turn.isPause = false) →
      Thorough (e.options.itinerary answer) answer (fun _ _ => True) id h d
  /-- One that meets another sweep in flight ends at once, with the inventory as it is. -/
  turnsAway : ∀ {e f id}, Reaches b e → e.sweeping = true → e.take (.embark id) = some f →
    f.steering.phase? id = some (.ended e.inventory.toList) ∧ f.records = e.records

/-- A pause overtakes every sweep that had begun, or that a timer or a start had asked for. -/
theorem spent_pause (hreg : c.IsRegular) (hd : Dated c.steering) (hs : s ∈ c.sweeps)
    (hp : s.phase ≠ .queued none) : Spent c.pause.steering s.id := by
  rw [steering_pause]
  refine ⟨hreg.orderly.sweeps.below s hs, fun u hu hid => ?_⟩
  obtain rfl := hreg.orderly.sweeps.eq_of_id hu hs hid
  cases ho : u.phase.isOver with
  | true => exact .inl ho
  | false =>
      have hepoch : ∃ k, u.epoch = some k := by
        unfold Sweep.epoch
        cases hq : u.phase with
        | queued p =>
            cases p with
            | none => exact absurd hq hp
            | some k => exact ⟨k, rfl⟩
        | _ => exact ⟨_, rfl⟩
      obtain ⟨k, hk⟩ := hepoch
      exact .inr ⟨k, hk, Nat.lt_succ_of_le (hd u hs ho k hk)⟩

/-- A sweep that meets another one in flight. -/
theorem turnedAway_of_embark {id : Nat} (hb : c.sweeping = true)
    (ht : c.take (.embark id) = some e) :
    e.steering.phase? id = some (.ended c.inventory.toList) ∧ e.records = c.records := by
  have hembark : ∀ {u : Sweep} {q : Option Nat}, u.phase = .queued q →
      c.embark u = c.putSweep { u with phase := .ended c.inventory.toList } := by
    intro u q hp
    unfold embark
    rw [hp]
    exact if_pos hb
  have hm := take_moves ht
  generalize hτ : e.steering = τ at hm
  cases hm with
  | keepArmed h | armTimer h | armOnce h => cases h
  | embark _ _ h => cases h.symm.trans hb
  | @turnAway u q _ hs hp _ =>
      let u' : Sweep := { u with phase := .ended c.inventory.toList }
      have hput : (c.steering.put u').sweep? u.id = some u' := Steering.sweep?_put_self hs rfl
      obtain rfl : c.embark u = e := Option.some.inj ((take_embark hs hp).symm.trans ht)
      rw [← hτ, hembark hp]
      exact ⟨Steering.phase?_of_sweep? hput, rfl⟩

/-- **`pause_safe`** — every pause is safe, whenever it takes effect. -/
theorem pause_safe {c₀ c : Census} (hc : c₀.IsNew) (hr : Reaches c₀ c) :
    IsSafePause c c.pause := by
  have hreg : c.IsRegular := (IsRegular.of_isNew hc).reaches hr
  have hb : c.pause.IsRegular := hreg.take (t := .pause) rfl
  have hprobes : c.pause.probes = c.probes := congrArg Steering.probes (steering_pause c)
  refine ⟨congrArg Steering.timer (steering_pause c), records_pause c, ?_, ?_, ?_, ?_, ?_⟩
  · intro h d hst s hs hp
    exact (hst.spent hb (spent_pause hreg (hr.dated hc) hs hp)).2
  · intro h d hst p hp
    have hd : d.IsRegular := hb.reaches hst.run.reaches
    refine (hb.landed_or_among hst ⟨p, hprobes.symm ▸ hp, rfl, rfl, rfl⟩).imp_right fun hamong => ?_
    obtain ⟨q, hq, hid, hsweep, -⟩ := id hamong
    have hfound := hd.probe?_of_mem hq
    refine ⟨hsweep ▸ hd.inFlight_of_mem hq, hamong, ?_⟩
    rw [← hid]
    cases hbegun : q.begun with
    | false => exact .inl (by rw [take_ping hfound hbegun]; rfl)
    | true => exact .inr fun o => by rw [take_endProbe hfound hbegun o]; rfl
  · intro h d hst s hs hp hno
    refine (hst.tally_eq hb (spent_pause hreg (hr.dated hc) hs hp) ?_).2
    rw [steering_pause]
    intro u hu hid
    obtain rfl := hreg.orderly.sweeps.eq_of_id hu hs hid
    exact hno
  · intro e f d h id answer hre hqueued hidle ht hv hpause
    have hbegins : e.Begins id f := by
      refine ⟨hidle, fun p hp => ?_, ht⟩
      obtain rfl := Sweep.Phase.queued.inj (Option.some.inj (hqueued.symm.trans hp))
      rfl
    exact hbegins.thorough (hb.reaches hre) hv (fun _ => ⟨.missed, trivial⟩) hpause
  · intro e f id _ hbusy ht
    exact turnedAway_of_embark hbusy ht

/-- A small census for sweeps of two addresses, one after the other. -/
def couple : Census := initial ⟨0, 0⟩ { smallOptions false with endOctet := 2 } .empty

theorem couple_isNew : couple.IsNew :=
  ⟨⟨0, 0⟩, { smallOptions false with endOctet := 2 }, .empty, rfl⟩

/-- What happens until the sweep has a probe of the first address under way. -/
def coupleHalf : List Turn :=
  [.requestSweep, .embark 0, .list 0 (.ok ["192.168.1"]), .proceed 0]

/-- The pause takes effect while the sweep waits for a permit, and another one that a start has asked
for has not begun. -/
theorem couple_pause_safe :
    ∃ c, couple.replay (coupleHalf ++ [.proceed 0, .start]) = some c ∧
      c.steering.phase? 0 = some .waiting ∧ c.steering.phase? 2 = some (.queued (some 0)) ∧
      c.probes.map Probe.address = [⟨192, 168, 1, 1⟩] ∧ IsSafePause c c.pause := by
  have hcheck : (couple.replay (coupleHalf ++ [.proceed 0, .start])).any (fun c =>
      decide (c.steering.phase? 0 = some .waiting ∧
        c.steering.phase? 2 = some (.queued (some 0)) ∧
        c.probes.map Probe.address = [⟨192, 168, 1, 1⟩])) = true := by
    decide +kernel
  obtain ⟨c, hd, hp⟩ := (Option.any_eq_true _ _).mp hcheck
  obtain ⟨hwaits, hqueued, hprobes⟩ := of_decide_eq_true hp
  have hr : Reaches couple c := (story_of_replay hd).run.reaches
  exact ⟨c, hd, hwaits, hqueued, hprobes, pause_safe couple_isNew hr⟩

/-- **`request_turned_away`** — the owner pauses the census and asks for a sweep at once, and does not
pause it again. The paused sweep is still in flight, and the new one ends without having dispatched
anything. -/
theorem request_turned_away :
    let turns : List Turn :=
      [.requestSweep, .embark 2, .ping 1, .endProbe 1 .missed, .proceed 0, .proceed 0]
    ∃ c d, couple.replay coupleHalf = some c ∧ c.pause.replay turns = some d ∧
      (∀ t ∈ turns, t.isPause = false) ∧ d.AtRest ∧ d.steering.phase? 2 = some (.ended []) ∧
      dispatchedBy 2 (c.pause.record turns) = [] ∧
      couple.options.itinerary (.ok ["192.168.1"]) = [⟨192, 168, 1, 1⟩, ⟨192, 168, 1, 2⟩] := by
  intro turns
  have hcheck : (couple.replay coupleHalf).any (fun c => (c.pause.replay turns).any fun d =>
      decide (d.AtRest ∧ d.steering.phase? 2 = some (.ended []) ∧
        dispatchedBy 2 (c.pause.record turns) = [])) = true := by
    decide +kernel
  obtain ⟨c, hc, hcheck⟩ := (Option.any_eq_true _ _).mp hcheck
  obtain ⟨d, hd, hp⟩ := (Option.any_eq_true _ _).mp hcheck
  obtain ⟨hrest, hended, hnothing⟩ := of_decide_eq_true hp
  exact ⟨c, d, hc, hd, by decide, hrest, hended, hnothing, by decide +kernel⟩

end Census

end LanCensus
