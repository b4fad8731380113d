/-
# LanCensus.Proofs.Census.Lookups -- lookups stand aside

Single devices may be looked up at any time, before, during and after sweeps. A run with lookups is set
beside the run without them: the turns of lookups are left out, and the others are taken again, with
the numbers that sweeps and probes have there (`Turn.renumber`). Each turn that is taken in the one can
be taken in the other, and keeps the two side by side (`Beside.take`); a lookup changes nothing but the
numbers to come (`Beside.lookUp`).

So whatever the lookups, the inventory, the options, the schedule and all announcements but progress
messages are at each point what they are without them (`lookups_stand_aside`).
-/

import LanCensus.Proofs.Census.Beside
import LanCensus.Proofs.Census.Progress
import LanCensus.Proofs.Net.Address
import Mathlib.Data.List.Induction

namespace LanCensus

namespace Beside

open Census

variable {σ : Nat → Nat} {c d : Census}

/-! ## Turns of the same kind -/

/-- Both take the same branch, or neither can go on. -/
theorem rel_ite {p q : Prop} [Decidable p] [Decidable q] {x x' y y' : Option Census} (hpq : p ↔ q)
    (h₁ : Option.Rel (Beside σ) x y) (h₂ : Option.Rel (Beside σ) x' y') :
    Option.Rel (Beside σ) (if p then x else x') (if q then y else y') := by
  by_cases hq : q
  · rwa [if_pos hq, if_pos (hpq.mpr hq)]
  · rwa [if_neg hq, if_neg (mt hpq.mp hq)]

/-- What is done with a sweep that is found by its number. -/
theorem bind_sweep? (h : Beside σ c d) {f g : Sweep → Option Census}
    (hfg : ∀ s, Option.Rel (Beside σ) (f (s.renumber σ)) (g s)) (id : Nat) :
    Option.Rel (Beside σ) ((c.sweep? (σ id)).bind f) ((d.sweep? id).bind g) := by
  rw [h.sweep?]
  cases d.sweep? id with
  | none => exact .none
  | some s => exact hfg s

/-- What is done with a probe that is found by its number. -/
theorem bind_probe? (h : Beside σ c d) {f g : Probe → Option Census}
    (hfg : ∀ p, Option.Rel (Beside σ) (f (p.renumber σ)) (g p)) (id : Nat) :
    Option.Rel (Beside σ) ((c.probe? (σ id)).bind f) ((d.probe? id).bind g) := by
  rw [h.probe?]
  cases d.probe? id with
  | none => exact .none
  | some p => exact hfg p

theorem settleListing (h : Beside σ c d) {f g : Sweep → Census}
    (hfg : ∀ s, Beside σ (f (s.renumber σ)) (g s)) (id : Nat) :
    Option.Rel (Beside σ) (c.settleListing (σ id) f) (d.settleListing id g) :=
  h.bind_sweep? (fun s => rel_ite Iff.rfl (.some (hfg s)) .none) id

theorem takeEmbark (h : Beside σ c d) (id : Nat) :
    Option.Rel (Beside σ) (c.take (.embark (σ id))) (d.take (.embark id)) := by
  refine h.bind_sweep? (fun s => ?_) id
  have hbegin := h.embark s
  obtain ⟨n, φ, pauses, o, targets, total, permits, sent, answered⟩ := s
  cases φ with
  | queued p => exact .some hbegin
  | _ => exact .none

theorem proceed (h : Beside σ c d) (s : Sweep) :
    Option.Rel (Beside σ) (c.proceed (s.renumber σ)) (d.proceed s) := by
  have hnext := h.dispatchNext s
  have hlast := h.complete s
  have hprobes := h.hasProbes s
  obtain ⟨n, φ, pauses, o, targets, total, permits, sent, answered⟩ := s
  cases φ with
  | ready => exact rel_ite (by rw [h.pauses]; rfl) (.some hnext) (.some (h.putSweep rfl))
  | waiting => exact rel_ite Iff.rfl (.some hnext) .none
  | resting w => exact rel_ite (by rw [h.now]) (.some (h.putSweep rfl)) .none
  | draining => exact rel_ite (by rw [← hprobes]) .none (.some hlast)
  | _ => exact .none

theorem takePing (h : Beside σ c d) (id : Nat) :
    Option.Rel (Beside σ) (c.take (.ping (σ id))) (d.take (.ping id)) :=
  h.bind_probe? (fun p => rel_ite Iff.rfl .none (.some (h.ping p))) id

theorem takeEndProbe (h : Beside σ c d) (id : Nat) (o : Outcome) :
    Option.Rel (Beside σ) (c.take (.endProbe (σ id) o)) (d.take (.endProbe id o)) :=
  h.bind_probe? (fun p => rel_ite Iff.rfl (.some (h.endProbe p o)) .none) id

theorem timerTurn (h : Beside σ c d) : Option.Rel (Beside σ) c.timerTurn d.timerTurn := by
  unfold Census.timerTurn
  rw [h.timer]
  cases d.timer with
  | none => exact .none
  | some t =>
      have hring := h.ring t
      obtain ⟨pauses, alarm, tick, ticking⟩ := t
      cases alarm with
      | ringing => exact .some hring
      | set w => exact rel_ite (by rw [h.now]) (.some (h.putTimer rfl)) .none
      | following id =>
          refine rel_ite ?_ (.some (h.planAhead.putTimer rfl)) .none
          rw [h.sweep?, Option.all_map]
          rfl
      | off => exact .none

theorem tickTurn (h : Beside σ c d) : Option.Rel (Beside σ) c.tickTurn d.tickTurn := by
  unfold Census.tickTurn
  rw [h.timer, h.now]
  cases d.timer with
  | none => exact .none
  | some t =>
      exact rel_ite Iff.rfl .none (rel_ite (by rw [h.pauses]; rfl) (.some (h.putTimer rfl))
        (.some (h.countDown.putTimer rfl)))

/-- **`Beside.take`** — a turn that is no lookup's can be taken in both or in neither, and keeps them
side by side. -/
theorem take (h : Beside σ c d) {t : Turn} (ht : t.isLookup = false) :
    Option.Rel (Beside σ) (c.take (t.renumber σ)) (d.take t) := by
  cases t with
  | start | resume => exact .some (h.arm _)
  | pause => exact .some h.pause
  | setOptions o => exact .some (h.setOptions o)
  | remove a => exact .some (h.remove a)
  | requestSweep => exact .some (h.requestSweep none)
  | lookUp | endLookup => cases ht
  | embark id => exact h.takeEmbark id
  | list id names =>
      cases names with
      | ok names => exact h.settleListing (fun s => h.listed s names) id
      | error e => exact h.settleListing (fun s => h.unlisted s e) id
  | collapse id => exact h.settleListing (fun s => h.crash rfl) id
  | proceed id => exact h.bind_sweep? h.proceed id
  | ping id => exact h.takePing id
  | endProbe id o => exact h.takeEndProbe id o
  | alarm => exact h.timerTurn
  | tick => exact h.tickTurn
  | pass n =>
      have hmoved : Beside σ { c with now := n } { d with now := n } := { h with now := rfl }
      exact rel_ite (by rw [h.now]) (.some hmoved) .none

end Beside

/-! ## Numbers in use -/

/-- The number of the sweep or probe whose turn it is. -/
def Turn.number? : Turn → Option Nat
  | .embark id | .list id _ | .collapse id | .proceed id | .ping id | .endProbe id _ => some id
  | _ => none

namespace Turn

variable {σ ρ : Nat → Nat} {t : Turn}

theorem renumber_congr (h : ∀ n, t.number? = some n → σ n = ρ n) : t.renumber σ = t.renumber ρ := by
  cases t with
  | embark id | list id | collapse id | proceed id | ping id | endProbe id =>
      simp only [renumber, h id rfl]
  | _ => rfl

theorem exists_renumber (h : ∀ n, t.number? = some n → ∃ m, σ m = n) :
    ∃ t' : Turn, t'.renumber σ = t ∧ t'.isLookup = t.isLookup := by
  cases hturn : t with
  | embark id =>
      obtain ⟨n, rfl⟩ := h id (by rw [hturn]; rfl)
      exact ⟨.embark n, rfl, rfl⟩
  | list id names =>
      obtain ⟨n, rfl⟩ := h id (by rw [hturn]; rfl)
      exact ⟨.list n names, rfl, rfl⟩
  | collapse id =>
      obtain ⟨n, rfl⟩ := h id (by rw [hturn]; rfl)
      exact ⟨.collapse n, rfl, rfl⟩
  | proceed id =>
      obtain ⟨n, rfl⟩ := h id (by rw [hturn]; rfl)
      exact ⟨.proceed n, rfl, rfl⟩
  | ping id =>
      obtain ⟨n, rfl⟩ := h id (by rw [hturn]; rfl)
      exact ⟨.ping n, rfl, rfl⟩
  | endProbe id o =>
      obtain ⟨n, rfl⟩ := h id (by rw [hturn]; rfl)
      exact ⟨.endProbe n o, rfl, rfl⟩
  | _ => exact ⟨t, by rw [hturn]; rfl, by rw [hturn]⟩

end Turn

section

open Census Steering

variable {c d e : Census} {t : Turn} {n : Nat}

/-- Only what is there has a turn. -/
theorem Census.mem_of_take (ht : c.take t = some e) (hn : t.number? = some n) :
    (∃ s ∈ c.sweeps, s.id = n) ∨ ∃ p ∈ c.probes, p.id = n := by
  have hsweep : ∀ {id : Nat} {f : Sweep → Option Census}, (c.sweep? id).bind f = some e →
      ∃ s ∈ c.sweeps, s.id = id := fun {id f} hs => by
    obtain ⟨s, hs, -⟩ := Option.bind_eq_some_iff.mp hs
    exact ⟨s, List.mem_of_find?_eq_some hs, id_of_sweep? (σ := c.steering) hs⟩
  have hprobe : ∀ {id : Nat} {f : Probe → Option Census}, (c.probe? id).bind f = some e →
      ∃ p ∈ c.probes, p.id = id := fun {id f} hp => by
    obtain ⟨p, hp, -⟩ := Option.bind_eq_some_iff.mp hp
    exact ⟨p, List.mem_of_find?_eq_some hp, id_of_probe? (σ := c.steering) hp⟩
  cases t with
  | embark | collapse | proceed =>
      cases hn
      exact .inl (hsweep ht)
  | list id names =>
      cases hn
      cases names <;> exact .inl (hsweep ht)
  | ping | endProbe =>
      cases hn
      exact .inr (hprobe ht)
  | _ => cases hn

/-- The sweep that a timer follows has been given its number. -/
def Followed (σ : Steering) : Prop :=
  ∀ x id, σ.timer = some x → x.alarm = .following id → id < σ.fresh

theorem Followed.moves {σ τ : Steering} (h : Followed σ) (hm : Moves σ t τ) : Followed τ := by
  have hkeep : ∀ {υ : Steering}, υ.timer = σ.timer → σ.fresh ≤ υ.fresh → Followed υ :=
    fun ht hf x id hx ha => Nat.lt_of_lt_of_le (h x id (ht ▸ hx) ha) hf
  have hidle : ∀ {υ : Steering} {x : Timer}, υ.timer = some x → (∀ id, x.alarm ≠ .following id) →
      Followed υ := fun hx hno y id hy ha => by
    cases hx.symm.trans hy
    exact (hno id ha).elim
  cases hm with
  | armTimer => exact hidle rfl nofun
  | pause | disband => exact fun x id hx => by cases hx
  | alarmOff | alarmSet | alarmBusy | alarmRing | alarmFollow => exact hidle rfl nofun
  | alarmAsk =>
      intro x id hx ha
      cases hx
      cases ha
      exact Nat.lt_succ_self _
  | tickOff hx | tick hx =>
      intro y id hy ha
      cases hy
      exact h _ id hx ha
  | complete =>
      obtain ⟨m, hm⟩ := σ.publish_eq _
      rw [hm]
      exact hkeep rfl (Nat.le_refl _)
  | lookUp hf => exact hkeep rfl hf
  | armOnce | request | dispatch | stumble => exact hkeep rfl (Nat.le_succ _)
  | _ => exact hkeep rfl (Nat.le_refl _)

/-- **`Allotted d`** — every number in use is below the fresh one. -/
structure Allotted (d : Census) : Prop where
  sweeps : ∀ s ∈ d.sweeps, s.id < d.fresh
  probes : ∀ p ∈ d.probes, p.id < d.fresh ∧ p.sweep < d.fresh
  follows : Followed d.steering

theorem Allotted.of_reaches (hc : c.IsNew) (hr : Reaches c d) : Allotted d := by
  have hreg := (IsRegular.of_isNew hc).reaches hr
  refine ⟨hreg.orderly.sweeps.below, fun p hp => ⟨hreg.numbered.below p hp, ?_⟩, ?_⟩
  · obtain ⟨s, hs, hid, -⟩ := hreg.supplied.belong p hp
    rw [← hid]
    exact hreg.orderly.sweeps.below s hs
  · clear hreg
    induction hr with
    | refl =>
        obtain ⟨now, o, r, rfl, -⟩ := hc.eq_initial
        exact fun x id hx => by cases hx
    | step _ ht ih => exact ih.moves (take_moves ht)

/-- A turn that can be taken bears a number that was given away. -/
theorem Allotted.lt_of_take (h : Allotted d) (ht : d.take t = some e) (hn : t.number? = some n) :
    n < d.fresh := by
  rcases mem_of_take ht hn with ⟨s, hs, rfl⟩ | ⟨p, hp, rfl⟩
  · exact h.sweeps s hs
  · exact (h.probes p hp).1

end

/-! ## The turns of lookups -/

namespace Beside

open Census

variable {σ ρ : Nat → Nat} {c d e : Census}

/-- A turn that can be taken beside another census is a turn of something that is there too. -/
theorem exists_renumber (h : Beside σ c d) {t : Turn} (ht : c.take t = some e) :
    ∃ t' : Turn, t'.renumber σ = t ∧ t'.isLookup = t.isLookup := by
  refine Turn.exists_renumber fun n hn => ?_
  rcases mem_of_take ht hn with ⟨s, hs, rfl⟩ | ⟨p, hp, rfl⟩
  · rw [h.sweeps] at hs
    obtain ⟨u, -, rfl⟩ := List.mem_map.mp hs
    exact ⟨u.id, rfl⟩
  · rw [h.probes] at hp
    obtain ⟨q, -, rfl⟩ := List.mem_map.mp hp
    exact ⟨q.id, rfl⟩

/-- The numbers that have not been given away may be translated in another way. -/
theorem retranslate (h : Beside σ c d) (ha : Allotted d) {m : Nat} (hρ : StrictMono ρ)
    (hagree : ∀ n < d.fresh, ρ n = σ n) (hfresh : ∀ k, ρ (d.fresh + k) = m + k) :
    Beside ρ { c with fresh := m } d :=
  { h with
    strict := hρ
    fresh := hfresh
    timer := by
      show c.timer = _
      rw [h.timer]
      cases ht : d.timer with
      | none => rfl
      | some x =>
          have halarm : x.alarm.renumber σ = x.alarm.renumber ρ := by
            cases hx : x.alarm with
            | following id => rw [Alarm.renumber, Alarm.renumber, hagree id (ha.follows x id ht hx)]
            | _ => rfl
          simp only [Option.map_some, Timer.renumber, halarm]
    sweeps := by
      show c.sweeps = _
      rw [h.sweeps]
      refine List.map_congr_left fun s hs => ?_
      rw [Sweep.renumber, Sweep.renumber, hagree _ (ha.sweeps s hs)]
    probes := by
      show c.probes = _
      rw [h.probes]
      refine List.map_congr_left fun p hp => ?_
      rw [Probe.renumber, Probe.renumber, hagree _ (ha.probes p hp).1, hagree _ (ha.probes p hp).2] }

/-- The translation after a number was given to a lookup. -/
theorem skip (h : Beside σ c d) (ha : Allotted d) :
    ∃ ρ, (∀ n < d.fresh, ρ n = σ n) ∧ Beside ρ { c with fresh := c.fresh + 1 } d := by
  have hagree : ∀ n < d.fresh, (if n < d.fresh then σ n else σ n + 1) = σ n := fun _ hn => if_pos hn
  refine ⟨fun n => if n < d.fresh then σ n else σ n + 1, hagree, h.retranslate ha ?_ hagree ?_⟩
  · intro m n hmn
    have hlt := h.strict hmn
    show (if m < d.fresh then σ m else σ m + 1) < if n < d.fresh then σ n else σ n + 1
    split <;> split <;> omega
  · intro k
    rw [if_neg (Nat.not_lt.mpr (Nat.le_add_right _ _)), h.fresh]
    omega

/-- **`Beside.lookUp`** — a lookup that begins takes a number, says so and pings. -/
theorem lookUp (h : Beside σ c d) (ha : Allotted d) (text : String) :
    ∃ ρ, (∀ n < d.fresh, ρ n = σ n) ∧ Beside ρ (c.beginLookup text) d := by
  unfold Census.beginLookup
  split
  · exact ⟨σ, fun _ _ => rfl, { h with notices := .more _ _ _ h.notices }⟩
  · obtain ⟨ρ, hagree, hρ⟩ := h.skip ha
    exact ⟨ρ, hagree,
      { hρ with notices := .more _ _ _ h.notices, pings := h.pings.cons _ }⟩

theorem endLookup (h : Beside σ c d) (l : Lookup) (o : Outcome) : Beside σ (c.endLookup l o) d := by
  unfold Census.endLookup
  dsimp only
  split
  · exact { h with notices := .more _ _ _ h.notices }
  · exact { h with }

/-- A turn of a lookup changes nothing but the numbers to come. -/
theorem takeLookup (h : Beside σ c d) (ha : Allotted d) {t : Turn} (ht : t.isLookup = true)
    (he : c.take t = some e) : ∃ ρ, (∀ n < d.fresh, ρ n = σ n) ∧ Beside ρ e d := by
  cases t with
  | lookUp text =>
      cases he
      exact h.lookUp ha text
  | endLookup id o =>
      obtain ⟨l, -, rfl⟩ := Option.map_eq_some_iff.mp he
      exact ⟨σ, fun _ _ => rfl, h.endLookup l o⟩
  | _ => cases ht

theorem refl (c : Census) : Beside id c c where
  strict := strictMono_id
  fresh _ := rfl
  now := rfl
  options := rfl
  inventory := rfl
  armed := rfl
  sweeping := rfl
  pauses := rfl
  dispatched := rfl
  nextSweep := rfl
  lastSweep := rfl
  timer := by
    cases c.timer with
    | none => rfl
    | some x =>
        obtain ⟨p, a, k, b⟩ := x
        cases a <;> rfl
  sweeps := (List.map_id _).symm
  probes := (List.map_id _).symm
  notices := .refl _
  pings := List.Sublist.refl _

end Beside

/-! ## Runs side by side -/

namespace Census

variable {c₀ c d e : Census} {σ ρ : Nat → Nat} {ts ts' us : List Turn} {t : Turn}

theorem replay_concat : c₀.replay (ts ++ [t]) = (c₀.replay ts).bind (·.take t) := by
  rw [replay, List.foldlM_append]
  refine congrArg (Option.bind (c₀.replay ts)) (funext fun d => ?_)
  rw [List.foldlM_cons]
  exact Option.bind_fun_some (d.take t)

/-- No number is fresh again. -/
theorem fresh_le_of_reaches (hr : Reaches c d) : c.fresh ≤ d.fresh := by
  induction hr with
  | refl => exact Nat.le_refl _
  | step _ ht ih => exact Nat.le_trans ih (take_moves ht).mono.2

/-- The turns of a run bear numbers that have been given away by its end. -/
theorem map_renumber_congr (hc : c₀.IsNew) (hr : c₀.replay ts = some d)
    (hagree : ∀ n < d.fresh, ρ n = σ n) :
    ts.map (·.renumber ρ) = ts.map (·.renumber σ) := by
  induction ts using List.reverseRecOn generalizing d with
  | nil => rfl
  | append_singleton ts t ih =>
      rw [replay_concat] at hr
      obtain ⟨e, he, ht⟩ := Option.bind_eq_some_iff.mp hr
      have hle : e.fresh ≤ d.fresh := fresh_le_of_reaches (.step .refl ht)
      have hlt := fun n hn =>
        (Allotted.of_reaches hc (run_of_replay he).reaches).lt_of_take (n := n) ht hn
      rw [List.map_append, List.map_append, ih he fun n hn => hagree n (Nat.lt_of_lt_of_le hn hle),
        List.map_singleton, List.map_singleton, Turn.renumber_congr fun n hn => hagree n ?_]
      exact Nat.lt_of_lt_of_le (hlt n hn) hle

/-- **`Matches c d`** — what the owner of a census can see, and what it has announced, is the same for
both, progress messages apart, of which `c` may have more. -/
structure Matches (c d : Census) : Prop where
  now : c.now = d.now
  options : c.options = d.options
  inventory : c.inventory = d.inventory
  armed : c.armed = d.armed
  sweeping : c.sweeping = d.sweeping
  dispatched : c.dispatched = d.dispatched
  nextSweep : c.nextSweep = d.nextSweep
  lastSweep : c.lastSweep = d.lastSweep
  deviceNotices : c.notices.filterMap Notice.device? = d.notices.filterMap Notice.device?
  sweepNotices : c.notices.filterMap Notice.sweeping? = d.notices.filterMap Notice.sweeping?
  scheduleNotices : c.notices.filterMap Notice.schedule? = d.notices.filterMap Notice.schedule?
  progress : AddsProgress c.notices d.notices

theorem Matches.of_beside (h : Beside σ c d) : Matches c d :=
  { h with
    deviceNotices := h.notices.filterMap_eq fun _ _ _ => rfl
    sweepNotices := h.notices.filterMap_eq fun _ _ _ => rfl
    scheduleNotices := h.notices.filterMap_eq fun _ _ _ => rfl
    progress := h.notices }

/-- The turns of a run that are no lookup's. -/
def others (ts : List Turn) : List Turn := ts.filter (!·.isLookup)

theorem others_concat_of_lookup (ht : t.isLookup = true) : others (ts ++ [t]) = others ts := by
  rw [others, List.filter_append, List.filter_singleton, ht]
  exact List.append_nil _

theorem others_concat (ht : t.isLookup = false) : others (ts ++ [t]) = others ts ++ [t] := by
  rw [others, List.filter_append, List.filter_singleton, ht]
  rfl

/-- **`Alongside c₀ σ ts ts' d`** — the turns `ts'` are those of `ts` without the lookups, they lead from
`c₀` to `d`, and wherever the turns `ts` lead on their way, as many of the others lead to a census beside
it. -/
structure Alongside (c₀ : Census) (σ : Nat → Nat) (ts ts' : List Turn) (d : Census) : Prop where
  turns : ts'.map (·.renumber σ) = others ts
  run : c₀.replay ts' = some d
  within : ∀ us, us <+: ts → ∃ c₁ d₁ ρ, c₀.replay us = some c₁ ∧
    c₀.replay (ts'.take (others us).length) = some d₁ ∧ Beside ρ c₁ d₁ ∧ d₁.fresh ≤ d.fresh ∧
    ∀ n < d₁.fresh, σ n = ρ n

namespace Alongside

theorem length_eq (a : Alongside c₀ σ ts ts' d) : (others ts).length = ts'.length := by
  rw [← a.turns, List.length_map]

theorem nil (c₀ : Census) : Alongside c₀ id [] [] c₀ where
  turns := rfl
  run := rfl
  within us hus := by
    obtain rfl := List.prefix_nil.mp hus
    exact ⟨c₀, c₀, id, rfl, rfl, .refl c₀, Nat.le_refl _, fun _ _ => rfl⟩

/-- A lookup has its turn. -/
theorem lookup (a : Alongside c₀ σ ts ts' d) (hc : c₀.IsNew) (ht : t.isLookup = true)
    (hr : c₀.replay (ts ++ [t]) = some e) (hρ : Beside ρ e d) (hagree : ∀ n < d.fresh, ρ n = σ n) :
    Alongside c₀ ρ (ts ++ [t]) ts' d where
  turns := by rw [others_concat_of_lookup ht, map_renumber_congr hc a.run hagree, a.turns]
  run := a.run
  within us hus := by
    rcases List.prefix_concat_iff.mp hus with rfl | hus
    · rw [others_concat_of_lookup ht, a.length_eq, List.take_length]
      exact ⟨e, d, ρ, hr, a.run, hρ, Nat.le_refl _, fun _ _ => rfl⟩
    · obtain ⟨c₁, d₁, τ, h₁, h₂, h₃, hle, hτ⟩ := a.within us hus
      refine ⟨c₁, d₁, τ, h₁, h₂, h₃, hle, fun n hn => ?_⟩
      exact (hagree n (Nat.lt_of_lt_of_le hn hle)).trans (hτ n hn)

/-- Somebody else has its turn, in both. -/
theorem other (a : Alongside c₀ σ ts ts' d) {t' : Turn} {d' : Census} (ht : t.isLookup = false)
    (ht' : t'.renumber σ = t) (hr : c₀.replay (ts ++ [t]) = some e) (hd : d.take t' = some d')
    (hσ : Beside σ e d') : Alongside c₀ σ (ts ++ [t]) (ts' ++ [t']) d' := by
  have hrun : c₀.replay (ts' ++ [t']) = some d' := by
    rw [replay_concat, a.run]
    exact hd
  have hfresh : d.fresh ≤ d'.fresh := fresh_le_of_reaches (.step .refl hd)
  refine ⟨?_, hrun, fun us hus => ?_⟩
  · rw [others_concat ht, List.map_append, a.turns, List.map_singleton, ht']
  · rcases List.prefix_concat_iff.mp hus with rfl | hus
    · rw [others_concat ht, List.length_append, a.length_eq]
      refine ⟨e, d', σ, hr, ?_, hσ, Nat.le_refl _, fun _ _ => rfl⟩
      rw [List.take_of_length_le (by simp)]
      exact hrun
    · obtain ⟨c₁, d₁, τ, h₁, h₂, h₃, hle, hτ⟩ := a.within us hus
      refine ⟨c₁, d₁, τ, h₁, ?_, h₃, Nat.le_trans hle hfresh, hτ⟩
      rwa [List.take_append_of_le_length]
      rw [← a.length_eq]
      exact (hus.sublist.filter _).length_le

end Alongside

/-- **`exists_alongside`** — beside every run there is the run without its lookups. By induction on the
turns, the last of which is a lookup's or can be taken in both runs. -/
theorem exists_alongside (hc : c₀.IsNew) (hr : c₀.replay ts = some c) :
    ∃ σ ts' d, Beside σ c d ∧ Alongside c₀ σ ts ts' d := by
  induction ts using List.reverseRecOn generalizing c with
  | nil =>
      cases hr
      exact ⟨id, [], c₀, .refl c₀, .nil c₀⟩
  | append_singleton ts t ih =>
      have hall := hr
      rw [replay_concat] at hr
      obtain ⟨b, hb, ht⟩ := Option.bind_eq_some_iff.mp hr
      obtain ⟨σ, ts', d, hσ, a⟩ := ih hb
      cases hl : t.isLookup with
      | true =>
          have hallot := Allotted.of_reaches hc (run_of_replay a.run).reaches
          obtain ⟨ρ, hagree, hρ⟩ := hσ.takeLookup hallot hl ht
          exact ⟨ρ, ts', d, hρ, a.lookup hc hl hall hρ hagree⟩
      | false =>
          obtain ⟨t', rfl, hl'⟩ := hσ.exists_renumber ht
          have hrel := hσ.take (hl'.trans hl)
          rw [ht] at hrel
          cases hd : d.take t' with
          | none =>
              rw [hd] at hrel
              cases hrel
          | some d' =>
              rw [hd] at hrel
              cases hrel with
              | some hσ' => exact ⟨σ, ts' ++ [t'], d', hσ', a.other hl rfl hall hd hσ'⟩

/-- A text that is no dotted quad is complained about, and nothing is pinged. -/
theorem take_lookUp_of_no_quad {text : String}
    (h : ∀ a : Address, Text.trim text.toList ≠ a.text.toList) :
    c.take (.lookUp text) = some { c with
      notices := .progress .error s!"Invalid IP address: {text}" c.now :: c.notices } := by
  have hnone : Address.parse? (Text.trim text.toList) = none := by
    cases hp : Address.parse? (Text.trim text.toList) with
    | none => rfl
    | some a => exact (h a (Address.parse?_eq_some_iff.mp hp)).elim
  rw [take, beginLookup, hnone]
  rfl

/-- A lookup that has not ended can end at any time. -/
theorem take_endLookup_of_mem {l : Lookup} (hl : l ∈ c.lookups) (o : Outcome) :
    (c.take (.endLookup l.id o)).isSome = true := by
  rw [take, Option.isSome_map, lookup?, List.find?_isSome]
  exact ⟨l, hl, beq_self_eq_true l.id⟩

/-- What can be taken without lookups can be taken beside them. -/
theorem isSome_take_of_beside (h : Beside σ c d) (ha : Allotted d)
    (hagree : ∀ n < d.fresh, ρ n = σ n) (hl : t.isLookup = false) (ht : (d.take t).isSome = true) :
    (c.take (t.renumber ρ)).isSome = true := by
  obtain ⟨e, he⟩ := Option.isSome_iff_exists.mp ht
  rw [Turn.renumber_congr fun n hn => hagree n (ha.lt_of_take he hn)]
  have hrel := h.take hl
  rw [he] at hrel
  cases hc : c.take (t.renumber σ) with
  | some _ => rfl
  | none =>
      rw [hc] at hrel
      cases hrel

/-- **`lookups_stand_aside`** — leave the lookups out of a run, and the others can have their turns all
the same, with the numbers that they have without lookups. All the way, the census of the run looks
like the one without them but for more progress messages; whoever can have a turn there can have it
here; lookups can begin and end at any time; and a text that is no dotted quad is complained about once
and pings nothing. -/
theorem lookups_stand_aside (hc : c₀.IsNew) (hr : c₀.replay ts = some c) :
    ∃ (σ : Nat → Nat) (ts' : List Turn), StrictMono σ ∧ ts'.map (·.renumber σ) = others ts ∧
      ∀ us, us <+: ts → ∃ c₁ d₁, c₀.replay us = some c₁ ∧
        c₀.replay (ts'.take (others us).length) = some d₁ ∧ Matches c₁ d₁ ∧
        (∀ t, t.isLookup = false → (d₁.take t).isSome = true →
          (c₁.take (t.renumber σ)).isSome = true) ∧
        (∀ text, (c₁.take (.lookUp text)).isSome = true) ∧
        (∀ l ∈ c₁.lookups, ∀ o, (c₁.take (.endLookup l.id o)).isSome = true) ∧
        ∀ text, (∀ a : Address, Text.trim text.toList ≠ a.text.toList) →
          c₁.take (.lookUp text) = some { c₁ with
            notices := .progress .error s!"Invalid IP address: {text}" c₁.now :: c₁.notices } := by
  obtain ⟨σ, ts', d, hσ, a⟩ := exists_alongside hc hr
  refine ⟨σ, ts', hσ.strict, a.turns, fun us hus => ?_⟩
  obtain ⟨c₁, d₁, ρ, h₁, h₂, hρ, -, hagree⟩ := a.within us hus
  have hallot := Allotted.of_reaches hc (run_of_replay h₂).reaches
  exact ⟨c₁, d₁, h₁, h₂, .of_beside hρ, fun t hl => isSome_take_of_beside hρ hallot hagree hl,
    fun _ => rfl, fun l hl => take_endLookup_of_mem hl, fun _ => take_lookUp_of_no_quad⟩

/-- The turns of a small census while two lookups run beside a sweep, and a third is refused. -/
def smallAside : List Turn :=
  [.start, .lookUp " 192.168.1.1 ", .alarm, .embark 1, .lookUp "192.168.1.7", .lookUp "nobody",
    .list 1 (.ok ["192.168.1"]), .proceed 1, .endLookup 0 .missed, .ping 3,
    .endProbe 3 (.found ⟨.zero, none, none, none⟩), .endLookup 2 .missed, .proceed 1, .proceed 1]

/-- The sweep finds the same device, and completes, as in the run of nine turns without lookups. -/
theorem smallAside_stands_aside :
    ∃ c d ts', (small true).replay smallAside = some c ∧ (small true).replay ts' = some d ∧
      ts'.length = 9 ∧ Matches c d ∧ c.inventory.size = 1 ∧ c.lastSweep = some ⟨0, 0⟩ := by
  have hc : ((small true).replay smallAside).any (fun c => decide
      (c.inventory.size = 1 ∧ c.lastSweep = some ⟨0, 0⟩)) = true := by decide +kernel
  obtain ⟨c, hr, hp⟩ := (Option.any_eq_true _ _).mp hc
  obtain ⟨σ, ts', -, hts, hall⟩ := lookups_stand_aside (small_isNew true) hr
  obtain ⟨c₁, d₁, h₁, h₂, hm, -⟩ := hall smallAside List.prefix_rfl
  obtain rfl := Option.some.inj (hr.symm.trans h₁)
  have hlength : ts'.length = 9 := by
    rw [← List.length_map, hts]
    rfl
  exact ⟨c, d₁, _, hr, h₂, by rw [List.length_take, hlength]; rfl, hm, of_decide_eq_true hp⟩

end Census

end LanCensus
