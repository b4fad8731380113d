/-
# LanCensus.Proofs.Detect.Inquiry -- what one step of an inquiry can do

`Goes` says in one place all that can happen while calls are under way, each case with the condition under
which it happens, and `goes_of_step` is its proof. In every case at most one call changes its phase
(`Inquiry.moveOn`).

A course remembers each step with the inquiry before and after it. From a course one reads which searches
have ended without failing, each with the time when it was over (`found`).
-/

import LanCensus.Detect.Inquiry
import Mathlib.Logic.Basic

namespace LanCensus.Detect

namespace Inquiry

variable {q r : Inquiry} {i j : Nat}

/-! ## Calls by number -/

/-- The call is in another phase, and nothing else has changed. -/
def moveOn (q : Inquiry) (i : Nat) (phase : CallPhase) : Inquiry :=
  { q with toUpnpDesk := q.enter i phase }

/-- The call searches. -/
def Searches (q : Inquiry) (i : Nat) : Prop := q.phase? i = some .searching

@[simp]
theorem moveOn_labels (q : Inquiry) (i : Nat) (phase : CallPhase) :
    (q.moveOn i phase).labels = q.labels := rfl

theorem call?_moveOn_self {a : Address} {old : CallPhase} (h : q.call? i = some ⟨a, old⟩)
    (phase : CallPhase) : (q.moveOn i phase).call? i = some ⟨a, phase⟩ := by
  have h : q.calls[i]? = some ⟨a, old⟩ := h
  show (q.calls.modify i fun c => { c with phase })[i]? = _
  simp [h]

theorem call?_moveOn_of_ne (h : i ≠ j) (phase : CallPhase) :
    (q.moveOn i phase).call? j = q.call? j := by
  show (q.calls.modify i fun c => { c with phase })[j]? = q.calls[j]?
  simp [h]

/-- A call keeps its address. -/
theorem exists_call?_of_moveOn {phase : CallPhase} {c : UpnpCall}
    (h : (q.moveOn i phase).call? j = some c) :
    ∃ old, q.call? j = some ⟨c.address, old⟩ ∧ (i = j ∧ c.phase = phase ∨ i ≠ j ∧ c.phase = old) := by
  by_cases hij : i = j
  · subst hij
    cases hold : q.call? i with
    | none =>
        have hold : q.calls[i]? = none := hold
        have h : (q.calls.modify i fun c => { c with phase })[i]? = some c := h
        simp [hold] at h
    | some b =>
        rw [call?_moveOn_self hold] at h
        cases h
        exact ⟨b.phase, rfl, .inl ⟨rfl, rfl⟩⟩
  · rw [call?_moveOn_of_ne hij] at h
    exact ⟨c.phase, h, .inr ⟨hij, rfl⟩⟩

theorem call?_begin {a : Address} {c : UpnpCall} (h : (q.begin a).call? j = some c) :
    (j = q.calls.length ∧ c = ⟨a, .arriving⟩) ∨ q.call? j = some c := by
  have h : (q.calls ++ [⟨a, .arriving⟩])[j]? = some c := h
  rw [List.getElem?_append] at h
  split at h
  · exact .inr h
  · next hj =>
    obtain ⟨hzero, hc⟩ := List.getElem?_eq_some_iff.mp h
    simp only [List.length_singleton] at hzero
    have hlength : j = q.calls.length := by omega
    subst hlength
    simp at hc
    exact .inl ⟨rfl, hc.symm⟩

theorem call?_begin_self (q : Inquiry) (a : Address) :
    ({ q with toUpnpDesk := q.begin a } : Inquiry).call? q.calls.length = some ⟨a, .arriving⟩ :=
  List.getElem?_concat_length

theorem phase?_of_call? {a : Address} {phase : CallPhase} (h : q.call? i = some ⟨a, phase⟩) :
    q.phase? i = some phase := by rw [phase?, h, Option.map_some]

theorem exists_call?_of_phase? {phase : CallPhase} (h : q.phase? i = some phase) :
    ∃ a, q.call? i = some ⟨a, phase⟩ := by
  obtain ⟨c, hc, rfl⟩ := Option.map_eq_some_iff.mp h
  exact ⟨c.address, hc⟩

/-! ## Calls that search -/

theorem isSearching_iff : q.isSearching = true ↔ ∃ i, q.Searches i := by
  simp only [UpnpDesk.isSearching, List.any_eq_true, decide_eq_true_eq]
  constructor
  · rintro ⟨c, hc, hp⟩
    obtain ⟨i, hi⟩ := List.mem_iff_getElem?.mp hc
    exact ⟨i, Option.map_eq_some_iff.mpr ⟨c, hi, hp⟩⟩
  · rintro ⟨i, hi⟩
    obtain ⟨c, hc, hp⟩ := Option.map_eq_some_iff.mp hi
    exact ⟨c, List.mem_of_getElem? hc, hp⟩

theorem not_isSearching_iff : q.isSearching = false ↔ ∀ i, ¬ q.Searches i := by
  rw [← Bool.not_eq_true, isSearching_iff, not_exists]

theorem lookedUp_ne_searching (o : Option (List Char)) : CallPhase.lookedUp o ≠ .searching := by
  cases o <;> simp [CallPhase.lookedUp]

theorem lookedUp_ne_answered (o : Option (List Char)) (label : Option String) :
    CallPhase.lookedUp o ≠ .answered label := by
  cases o <;> simp [CallPhase.lookedUp]

/-- Only the call that moves on may begin to search. -/
theorem searches_of_moveOn {phase : CallPhase} (h : (q.moveOn i phase).Searches j) :
    (i = j ∧ phase = .searching) ∨ (i ≠ j ∧ q.Searches j) := by
  obtain ⟨c, hc, hp⟩ := Option.map_eq_some_iff.mp h
  obtain ⟨old, hold, ⟨hij, hphase⟩ | ⟨hij, hphase⟩⟩ := exists_call?_of_moveOn hc
  · exact .inl ⟨hij, hphase.symm.trans hp⟩
  · refine .inr ⟨hij, ?_⟩
    rw [Searches, phase?_of_call? hold, ← hphase, hp]

/-- A call that moves on to anything but a search leaves at most the searches of the others. -/
theorem searches_of_moveOn_of_ne {phase : CallPhase} (hphase : phase ≠ .searching)
    (hr : (q.moveOn i phase).Searches j) : j ≠ i ∧ q.Searches j := by
  rcases searches_of_moveOn hr with ⟨-, hp⟩ | ⟨hij, hq⟩
  · exact absurd hp hphase
  · exact ⟨Ne.symm hij, hq⟩

theorem searches_of_begin (hr : Searches { q with toUpnpDesk := q.begin a } j) : q.Searches j := by
  obtain ⟨c, hc, hp⟩ := Option.map_eq_some_iff.mp hr
  rcases call?_begin hc with ⟨-, rfl⟩ | hq
  · cases hp
  · exact Option.map_eq_some_iff.mpr ⟨c, hq, hp⟩

/-! ## What holds of every call -/

/-- Something holds of every call, given its number, its address and its phase. -/
def Every (q : Inquiry) (P : Nat → Address → CallPhase → Prop) : Prop :=
  ∀ j a phase, q.call? j = some ⟨a, phase⟩ → P j a phase

section

variable {P : Nat → Address → CallPhase → Prop} {a : Address}

theorem every_moveOn {old phase : CallPhase} (hq : q.Every P) (hc : q.call? i = some ⟨a, old⟩)
    (hi : P i a phase) : (q.moveOn i phase).Every P := by
  intro j b phase' hj
  obtain ⟨old', hold, ⟨rfl, rfl⟩ | ⟨-, rfl⟩⟩ := exists_call?_of_moveOn hj
  · cases hc.symm.trans hold
    exact hi
  · exact hq j b phase' hold

theorem every_begin (hq : q.Every P) (hnew : P q.calls.length a .arriving) :
    Every { q with toUpnpDesk := q.begin a } P := by
  intro j b phase hj
  rcases call?_begin hj with ⟨rfl, hnew'⟩ | hold
  · cases hnew'
    exact hnew
  · exact hq j b phase hold

end

/-! ## The turn of a call that waits -/

/-- Where a call that waits goes on when it has its turn. -/
def atTurn (q : Inquiry) (a : Address) : CallPhase :=
  (q.search.filter (·.isFresh q.now)).elim .searching fun s => .lookedUp (s.found.get? a)

theorem takeTurn_of_waiting {a : Address} (hc : q.call? i = some ⟨a, .waiting⟩)
    (hnone : ∀ j, ¬ q.Searches j) :
    { q with toUpnpDesk := q.takeTurn i q.now } = q.moveOn i (q.atTurn a) := by
  have hfree : q.isSearching = false := not_isSearching_iff.mpr hnone
  simp only [UpnpDesk.takeTurn, hc, hfree, Bool.false_eq_true, if_false, moveOn, atTurn]
  cases q.search.filter (·.isFresh q.now) <;> rfl

/-- It can have its turn as soon as no call searches. -/
theorem step_takeTurn {a : Address} (hc : q.call? i = some ⟨a, .waiting⟩)
    (hnone : ∀ j, ¬ q.Searches j) : q.step (.takeTurn i) = some (q.moveOn i (q.atTurn a)) := by
  have hfree : q.isSearching = false := not_isSearching_iff.mpr hnone
  rw [← takeTurn_of_waiting hc hnone]
  simp [step, phase?_of_call? hc, hfree]

/-! ## Other turns -/

section

variable {a : Address} {label : Option String}

theorem step_remember (hc : q.call? i = some ⟨a, .arriving⟩) (hl : q.labels.get? a = some label) :
    q.step (.consult i) = some (q.moveOn i (.answered label)) := by
  simp [step, phase?_of_call? hc, UpnpDesk.consult, hc, hl, moveOn]

/-- A call for whose address no label is kept waits for its turn to look at the last search. -/
theorem step_consult (hc : q.call? i = some ⟨a, .arriving⟩) (hl : q.labels.get? a = none) :
    q.step (.consult i) = some (q.moveOn i .waiting) := by
  simp [step, phase?_of_call? hc, UpnpDesk.consult, hc, hl, moveOn]

theorem step_find (hc : q.call? i = some ⟨a, .searching⟩) (responders : Responders) :
    q.step (.endSearch i (some responders)) =
      some (moveOn { q with search := some ⟨q.now, responders⟩ } i (.lookedUp (responders.get? a))) := by
  simp only [step, phase?_of_call? hc, UpnpDesk.endSearch, hc]
  rfl

theorem step_fail (hc : q.call? i = some ⟨a, .searching⟩) :
    q.step (.endSearch i none) = some (q.moveOn i (.closing none)) := by
  simp only [step, phase?_of_call? hc, UpnpDesk.endSearch, hc]
  rfl

theorem step_fetch {location : List Char} (hc : q.call? i = some ⟨a, .fetching location⟩)
    (document : Option (List UInt8)) : q.step (.endFetch i document) =
      some (q.moveOn i (.closing (some (UpnpDesk.labelOfFetched document)))) := by
  simp only [step, phase?_of_call? hc, UpnpDesk.endFetch, hc]
  rfl

theorem step_keep (hc : q.call? i = some ⟨a, .closing label⟩) : q.step (.keep i) =
    some (moveOn { q with labels := q.labels.insert a label } i (.answered label)) := by
  simp only [step, phase?_of_call? hc, UpnpDesk.keep, hc]
  rfl

end

/-! ## All that can happen -/

/-- **`Goes q x r`** — when `x` happens, the inquiry `q` can become `r`. -/
inductive Goes (q : Inquiry) : Happening → Inquiry → Prop
  | call {a : Address} : Goes q (.call a) { q with toUpnpDesk := q.begin a }
  -- A call looks at the labels that are kept.
  | remember {i : Nat} {a : Address} {label : Option String} : q.call? i = some ⟨a, .arriving⟩ →
      q.labels.get? a = some label → Goes q (.consult i) (q.moveOn i (.answered label))
  | queue {i : Nat} {a : Address} : q.call? i = some ⟨a, .arriving⟩ → q.labels.get? a = none →
      Goes q (.consult i) (q.moveOn i .waiting)
  -- A call looks at the last search.
  | read {i : Nat} {a : Address} {s : Search} : q.call? i = some ⟨a, .waiting⟩ → q.search = some s →
      s.isFresh q.now = true → Goes q (.takeTurn i) (q.moveOn i (.lookedUp (s.found.get? a)))
  | search {i : Nat} {a : Address} : q.call? i = some ⟨a, .waiting⟩ → (∀ j, ¬ q.Searches j) →
      (∀ s ∈ q.search, s.isFresh q.now = false) → Goes q (.takeTurn i) (q.moveOn i .searching)
  -- A search is over.
  | find {i : Nat} {a : Address} {found : Responders} : q.call? i = some ⟨a, .searching⟩ →
      Goes q (.endSearch i (some found))
        (moveOn { q with search := some ⟨q.now, found⟩ } i (.lookedUp (found.get? a)))
  | fail {i : Nat} {a : Address} : q.call? i = some ⟨a, .searching⟩ →
      Goes q (.endSearch i none) (q.moveOn i (.closing none))
  -- A call has its label, and has it kept.
  | fetch {i : Nat} {a : Address} {location : List Char} {document : Option (List UInt8)} :
      q.call? i = some ⟨a, .fetching location⟩ →
      Goes q (.endFetch i document) (q.moveOn i (.closing (some (UpnpDesk.labelOfFetched document))))
  | keep {i : Nat} {a : Address} {label : Option String} : q.call? i = some ⟨a, .closing label⟩ →
      Goes q (.keep i) (moveOn { q with labels := q.labels.insert a label } i (.answered label))
  | pass {s : Span} : Goes q (.pass s) { q with now := q.now.plus s }

theorem goes_of_takeTurn {a : Address} (hc : q.call? i = some ⟨a, .waiting⟩)
    (hnone : ∀ j, ¬ q.Searches j) : Goes q (.takeTurn i) (q.moveOn i (q.atTurn a)) := by
  rw [atTurn]
  cases hs : q.search.filter (·.isFresh q.now) with
  | some s =>
      obtain ⟨hsearch, hfresh⟩ := Option.filter_eq_some_iff.mp hs
      exact .read hc hsearch hfresh
  | none =>
      refine .search hc hnone fun s hsearch => ?_
      rw [← Bool.not_eq_true]
      exact Option.filter_eq_none_iff.mp hs s hsearch

/-- **`goes_of_step`** — every step is one of these. -/
theorem goes_of_step {x : Happening} (h : q.step x = some r) : Goes q x r := by
  cases x with
  | call a =>
      cases h
      exact .call
  | consult i =>
      simp only [step] at h
      split at h <;> cases h
      next hp =>
      obtain ⟨a, hc⟩ := exists_call?_of_phase? hp
      simp only [UpnpDesk.consult, hc]
      cases hl : q.labels.get? a with
      | none => exact .queue hc hl
      | some label => exact .remember hc hl
  | takeTurn i =>
      simp only [step] at h
      split at h
      · next hp =>
        split at h <;> cases h
        next hno =>
        obtain ⟨a, hc⟩ := exists_call?_of_phase? hp
        have hnone := not_isSearching_iff.mp (Bool.eq_false_iff.mpr hno)
        rw [takeTurn_of_waiting hc hnone]
        exact goes_of_takeTurn hc hnone
      · cases h
  | endSearch i result =>
      simp only [step] at h
      split at h <;> cases h
      next hp =>
      obtain ⟨a, hc⟩ := exists_call?_of_phase? hp
      simp only [UpnpDesk.endSearch, hc]
      cases result with
      | none => exact .fail hc
      | some found => exact .find hc
  | endFetch i document =>
      simp only [step] at h
      split at h <;> cases h
      next hp =>
      obtain ⟨a, hc⟩ := exists_call?_of_phase? hp
      simp only [UpnpDesk.endFetch, hc]
      exact .fetch hc
  | keep i =>
      simp only [step] at h
      split at h <;> cases h
      next hp =>
      obtain ⟨a, hc⟩ := exists_call?_of_phase? hp
      simp only [UpnpDesk.keep, hc]
      exact .keep hc
  | pass s =>
      cases h
      exact .pass

end Inquiry

/-! ## Courses -/

/-- **`Occurrence`** — what is remembered of a step: the inquiry before and after it. -/
structure Occurrence where
  before : Inquiry
  what : Happening
  after : Inquiry

namespace Occurrence

/-- A call begins to search. -/
def BeginsSearch (x : Occurrence) : Prop := ∃ i, ¬ x.before.Searches i ∧ x.after.Searches i

/-- The search that has ended without failing. -/
def found? (x : Occurrence) : Option Search :=
  match x.what with
  | .endSearch _ (some found) => some ⟨x.before.now, found⟩
  | _ => none

end Occurrence

/-- **`found h`** — the searches that have ended without failing, the latest first. -/
def found (h : List Occurrence) : List Search := h.filterMap Occurrence.found?

/-- **`Course q h r`** — the steps of the history `h`, of which the latest comes first, lead from `q` to `r`.
-/
inductive Course (q : Inquiry) : List Occurrence → Inquiry → Prop
  | start : Course q [] q
  | next {h : List Occurrence} {r p : Inquiry} {x : Happening} : Course q h r → r.step x = some p →
      Course q (⟨r, x, p⟩ :: h) p

/-- Courses follow one another. -/
theorem Course.append {q r p : Inquiry} {h k : List Occurrence} (hr : Course q h r) (hk : Course r k p) :
    Course q (k ++ h) p := by
  induction hk with
  | start => exact hr
  | next _ hstep ih => exact ih.next hstep

/-- What every step keeps is kept along every course. -/
theorem Course.keeps {q r : Inquiry} {h : List Occurrence} (hc : Course q h r) {I : Inquiry → Prop}
    (hstep : ∀ {p p' : Inquiry} {x : Happening}, I p → Inquiry.Goes p x p' → I p') (hq : I q) : I r := by
  induction hc with
  | start => exact hq
  | next _ hnext ih => exact hstep ih (Inquiry.goes_of_step hnext)

/-- No call is forgotten. -/
theorem Course.length_calls_le {q r : Inquiry} {h : List Occurrence} (hc : Course q h r) :
    q.calls.length ≤ r.calls.length := by
  refine hc.keeps (I := fun p => q.calls.length ≤ p.calls.length) (fun {p p' x} hp hg => ?_) (Nat.le_refl _)
  have hmove (p : Inquiry) (i : Nat) (phase : CallPhase) :
      (p.moveOn i phase).calls.length = p.calls.length := List.length_modify ..
  cases hg with
  | call => exact Nat.le_trans hp (by simp [UpnpDesk.begin])
  | pass => exact hp
  | _ => exact Nat.le_trans hp (Nat.le_of_eq (hmove _ _ _).symm)

namespace Inquiry

/-- **`replay q xs`** — the inquiry after things that happen one after another, the first in front, unless
one of them cannot happen. -/
def replay (q : Inquiry) (xs : List Happening) : Option Inquiry := xs.foldlM step q

/-- The history of things that happen one after another. -/
def record (q : Inquiry) : List Happening → List Occurrence
  | [] => []
  | x :: xs =>
    match q.step x with
    | some r => r.record xs ++ [⟨q, x, r⟩]
    | none => []

theorem course_of_replay {q r : Inquiry} {xs : List Happening} (h : q.replay xs = some r) :
    Course q (q.record xs) r := by
  induction xs generalizing q with
  | nil =>
      cases h
      exact .start
  | cons x xs ih =>
      obtain ⟨p, hp, hrest⟩ := Option.bind_eq_some_iff.mp h
      simp only [record, hp]
      exact (Course.start.next hp).append (ih hrest)

end Inquiry

end LanCensus.Detect
