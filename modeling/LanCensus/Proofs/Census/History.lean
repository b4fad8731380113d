/-
# LanCensus.Proofs.Census.History -- runs, and what is remembered of them

Whether a census does what it says depends on what has happened to it, not only on where it stands.
`Run c h d` is a run with its history `h`: for each turn the steering before and after it, the
latest first. `Since p q h` says that something of kind `p` happened and nothing of kind `q` after
it.

The end of a sweep and its failure are read off the phases before and after a turn, so that they
mean the same whichever turn brings them about.
-/

import LanCensus.Proofs.Census.Steering

namespace LanCensus

/-! ## Runs -/

/-- **`Step`** — what is remembered of a turn: the steering before and after it. -/
structure Step where
  before : Steering
  turn : Turn
  after : Steering

namespace Census

/-- The census has just been created, with any options that describe a sweep. -/
def IsNew (c : Census) : Prop := ∃ now o r, create now o r = .ok c

/-- **`Run c h d`** — the turns of the history `h` lead from `c` to `d`. -/
inductive Run (c : Census) : List Step → Census → Prop
  | start : Run c [] c
  | turn {h : List Step} {d e : Census} {t : Turn} :
      Run c h d → d.take t = some e → Run c (⟨d.steering, t, e.steering⟩ :: h) e

/-- A run reaches its end, and whatever is reached is the end of a run. -/
theorem Run.reaches {c d : Census} {h : List Step} (hr : Run c h d) : Reaches c d := by
  induction hr with
  | start => exact .refl
  | turn _ ht ih => exact .step ih ht

theorem Reaches.exists_run {c d : Census} (hr : Reaches c d) : ∃ h, Run c h d := by
  induction hr with
  | refl => exact ⟨[], .start⟩
  | step _ ht ih =>
      obtain ⟨h, hrun⟩ := ih
      exact ⟨_, hrun.turn ht⟩

/-- Runs follow one another; the later history stands in front. -/
theorem Run.append {c d e : Census} {h k : List Step} (hr : Run c h d) (hk : Run d k e) :
    Run c (k ++ h) e := by
  induction hk with
  | start => exact hr
  | turn _ ht ih => exact ih.turn ht

/-- A run goes through every turn of its history. -/
theorem Run.split {c d : Census} {later earlier : List Step} {x : Step}
    (hr : Run c (later ++ x :: earlier) d) :
    ∃ a b, Run c earlier a ∧ a.take x.turn = some b ∧ x = ⟨a.steering, x.turn, b.steering⟩ ∧
      Run b later d := by
  induction later generalizing d with
  | nil =>
      cases hr with
      | turn hr ht => exact ⟨_, _, hr, ht, rfl, .start⟩
  | cons y later ih =>
      cases hr with
      | turn hr ht =>
          obtain ⟨a, b, ha, hab, hx, hb⟩ := ih hr
          exact ⟨a, b, ha, hab, hx, hb.turn ht⟩

/-- **`replay c ts`** — the census after turns that come one after another, the first in front,
unless one cannot be taken. -/
def replay (c : Census) (ts : List Turn) : Option Census := ts.foldlM take c

/-- The history of turns that come one after another. -/
def record (c : Census) : List Turn → List Step
  | [] => []
  | t :: ts =>
    match c.take t with
    | some d => d.record ts ++ [⟨c.steering, t, d.steering⟩]
    | none => []

theorem run_of_replay {c d : Census} {ts : List Turn} (h : c.replay ts = some d) :
    Run c (c.record ts) d := by
  -- The first turn is taken from `c`, so the census has to vary along the list.
  induction ts generalizing c with
  | nil =>
      cases h
      exact .start
  | cons t ts ih =>
      obtain ⟨e, he, hrest⟩ := Option.bind_eq_some_iff.mp h
      simp only [record, he]
      exact (Run.start.turn he).append (ih hrest)

/-! ## A small census -/

/-- Options for sweeps of a single address in each subnet. -/
def smallOptions (continuous : Bool) : Sweep.Options :=
  { Sweep.Options.default with maxProbes := 1, endOctet := 1, throttleMillis := 0, continuous }

/-- A new census with such options. -/
def small (continuous : Bool) : Census := initial ⟨0, 0⟩ (smallOptions continuous) .empty

/-- What happens from when the sweep `s` is told a subnet until it ends, if `p` is the number of its
probe. -/
def smallSweep (s p : Nat) : List Turn :=
  [.list s (.ok ["192.168.1"]), .proceed s, .ping p, .endProbe p .missed, .proceed s, .proceed s]

/-- The turns of a small census until its timer sleeps after the first sweep. -/
def smallNap : List Turn :=
  [.start, .alarm, .embark 0] ++ smallSweep 0 1 ++ [.alarm, .alarm, .tick]

theorem small_isNew (continuous : Bool) : (small continuous).IsNew :=
  ⟨⟨0, 0⟩, smallOptions continuous, .empty, by cases continuous <;> rfl⟩

end Census

/-! ## Past events -/

section Since

variable {α : Type*} {p q : α → Prop}

/-- **`Since p q h`** — something in the history is of kind `p`, and nothing after it of kind `q`.
-/
def Since (p q : α → Prop) : List α → Prop
  | [] => False
  | x :: h => p x ∨ (¬ q x ∧ Since p q h)

theorem since_iff {h : List α} :
    Since p q h ↔ ∃ later x earlier, h = later ++ x :: earlier ∧ p x ∧ ∀ y ∈ later, ¬ q y := by
  induction h with
  | nil => simp [Since]
  | cons x h ih =>
      constructor
      -- The latest event is the one that is looked for, or it comes after that one.
      · rintro (hx | ⟨hq, hs⟩)
        · exact ⟨[], x, h, rfl, hx, by simp⟩
        · obtain ⟨later, y, earlier, rfl, hy, hl⟩ := ih.mp hs
          exact ⟨x :: later, y, earlier, rfl, hy, List.forall_mem_cons.mpr ⟨hq, hl⟩⟩
      · rintro ⟨later, y, earlier, he, hy, hl⟩
        cases later with
        | nil =>
            cases he
            exact .inl hy
        | cons z later =>
            cases he
            rw [List.forall_mem_cons] at hl
            exact .inr ⟨hl.1, ih.mpr ⟨later, y, earlier, rfl, hy, hl.2⟩⟩

end Since

/-! ## What happens to sweeps -/

namespace Step

/-- A sweep was in flight before the turn. -/
def hadInFlight (x : Step) (id : Nat) : Prop := ∃ φ, x.before.phase? id = some φ ∧ φ.inFlight = true

/-- A sweep in flight ends. -/
def ends (x : Step) : Prop := ∃ id, x.hadInFlight id ∧ ∃ l, x.after.phase? id = some (.ended l)

/-- A sweep in flight fails beyond recovery. -/
def crashes (x : Step) : Prop := ∃ id, x.hadInFlight id ∧ x.after.phase? id = some .crashed

/-- The sweep `s`, which dispatches no more, ends. -/
def completes (x : Step) (s : Sweep) : Prop :=
  x.before.sweep? s.id = some s ∧ s.phase = .draining ∧ ∃ l, x.after.phase? s.id = some (.ended l)

end Step

/-! ## Waiting -/

/-- Whether a turn belongs to a task of the census, and to nobody outside it. -/
def Turn.ofTask : Turn → Bool
  | .embark _ | .proceed _ | .ping _ | .alarm | .tick => true
  | _ => false

namespace Census

/-- No sweep is in flight, and none has been asked for that has not begun. -/
def AtRest (c : Census) : Prop :=
  c.sweeping = false ∧ ∀ s ∈ c.sweeps, s.phase.isQueued = false

instance (c : Census) : Decidable c.AtRest := inferInstanceAs (Decidable (_ ∧ _))

/-- Every task of the census waits: for the clock, for an answer, or for another task. -/
def AllWait (c : Census) : Prop := ∀ t : Turn, t.ofTask = true → c.take t = none

end Census

end LanCensus
