/-
# LanCensus.Proofs.Census.Remarks -- errors and the time left

Most of what a census announces is routine: that something has begun or ended, that a device or the
deadline has changed. Two kinds of notices are not: that something went wrong, and how much time is
left until the next sweep. Few turns announce one of these remarks. The countdown tells the time left.
A sweep that is answered complains about each name that names no subnet, and says that it failed if
nothing is left (`Turn.faults`); a lookup complains about a text that names no address.

`remarks_take` and `remarks_tick` say that there are no others, operation by operation.
-/

import LanCensus.Proofs.Census.Steering

namespace LanCensus

/-! ## Errors -/

/-- The error that a notice tells of. -/
def Notice.fault? : Notice → Option String
  | .progress .error message _ => some message
  | _ => none

/-- Whether a notice tells of an error or how much time is left. -/
def Notice.isRemark : Notice → Bool
  | .progress .error _ _ | .schedule (.countdown _) => true
  | _ => false

/-- The errors of the names that name no subnet, in their order. -/
def complaints : Except SubnetError (List String) → List String
  | .ok names =>
    (names.filter fun name => (Subnet.parse? name).isNone).map fun name =>
      (SubnetError.invalid name).message
  | .error _ => []

/-- The error of a sweep that is answered like this and has no subnets. -/
def failure? : Except SubnetError (List String) → Option String
  | .ok names =>
    if Census.named names = [] then some "Network scan failed: No subnets to scan" else none
  | .error e => some s!"Network scan failed: {e.message}"

/-- **`faults t`** — the errors that the turn announces, the latest first. -/
def Turn.faults : Turn → List String
  | .list _ answer => (failure? answer).toList ++ (complaints answer).reverse
  | .lookUp text =>
    if (Address.parse? (Text.trim text.toList)).isNone then [s!"Invalid IP address: {text}"] else []
  | _ => []

theorem failure?_eq_none_iff {answer : Except SubnetError (List String)} :
    failure? answer = none ↔ ¬ NoSubnets answer := by
  cases answer with
  | error e => simp [failure?, NoSubnets]
  | ok names => simp [failure?, NoSubnets]

namespace Census

/-- The errors and times left that the census has told, the latest first. -/
def remarks (c : Census) : List Notice := c.notices.filter Notice.isRemark

/-- The errors that the census has announced, the latest first. -/
def faults (c : Census) : List String := c.notices.filterMap Notice.fault?

/-- What is read off the remarks alone is not changed by routine notices. -/
theorem filterMap_remarks {α : Type} {f : Notice → Option α} (c : Census)
    (hf : ∀ n, n.isRemark = false → f n = none) :
    c.remarks.filterMap f = c.notices.filterMap f := by
  unfold remarks
  rw [List.filterMap_filter]
  refine congrArg (List.filterMap · c.notices) (funext fun n => ?_)
  split
  · rfl
  · next h => exact (hf n (Bool.eq_false_iff.mpr h)).symm

/-! ## Announcing -/

theorem remarks_announce {n : Notice} (hn : n.isRemark = false) (c : Census) :
    (c.announce n).remarks = c.remarks :=
  List.filter_cons_of_neg (by simp [hn])

theorem remarks_complain (c : Census) (m : String) :
    (c.complain m).remarks = .progress .error m c.now :: c.remarks := rfl

@[simp] theorem remarks_report (c : Census) (m : String) : (c.report m).remarks = c.remarks :=
  remarks_announce rfl c

@[simp] theorem remarks_tell (c : Census) (n : DeviceNotice) : (c.tell n).remarks = c.remarks :=
  remarks_announce rfl c

@[simp] theorem remarks_setNextSweep (c : Census) (due : Option Instant) :
    (c.setNextSweep due).remarks = c.remarks := by
  unfold setNextSweep
  split
  · rfl
  · exact remarks_announce rfl _

@[simp] theorem remarks_planAhead (c : Census) : c.planAhead.remarks = c.remarks := by
  unfold planAhead
  split
  · exact remarks_setNextSweep ..
  · rfl

@[simp] theorem remarks_disarm (c : Census) : c.disarm.remarks = c.remarks :=
  remarks_setNextSweep ..

@[simp] theorem remarks_finish (c : Census) (s : Sweep) : (c.finish s).remarks = c.remarks :=
  remarks_announce rfl _

/-- **`complainInvalid_eq`** — the complaints about the names are announced, and nothing else
happens. -/
theorem complainInvalid_eq (c : Census) (names : List String) :
    c.complainInvalid names =
      { c with
        notices :=
          ((complaints (.ok names)).reverse.map fun m => .progress .error m c.now) ++ c.notices } := by
  unfold complainInvalid
  induction names generalizing c with
  | nil => rfl
  | cons name names ih =>
      rw [List.foldl_cons, ih]
      cases hn : Subnet.parse? name with
      | some n =>
          have hread : Subnet.read name = .ok n := by rw [Subnet.read, hn]
          have hsame : complaints (.ok (name :: names)) = complaints (.ok names) := by
            simp only [complaints, List.filter_cons, hn, Option.isNone_some]
            rfl
          rw [hread, hsame]
      | none =>
          have hread : Subnet.read name = .error (.invalid name) := by rw [Subnet.read, hn]
          have hmore : complaints (.ok (name :: names)) =
              (SubnetError.invalid name).message :: complaints (.ok names) := by
            simp only [complaints, List.filter_cons, hn, Option.isNone_none]
            rfl
          rw [hread, hmore, List.reverse_cons, List.map_append, List.append_assoc]
          rfl

theorem remarks_complainInvalid (c : Census) (names : List String) :
    (c.complainInvalid names).remarks =
      ((complaints (.ok names)).reverse.map fun m => .progress .error m c.now) ++ c.remarks := by
  rw [complainInvalid_eq, remarks, List.filter_append, List.filter_eq_self.mpr]
  · rfl
  · intro n hn
    obtain ⟨m, -, rfl⟩ := List.mem_map.mp hn
    rfl

/-! ## Requests of the owner -/

theorem remarks_arm (c : Census) (m : String) : (c.arm m).remarks = c.remarks := by
  unfold arm
  split
  · rfl
  · simp only
    split
    · exact (remarks_setNextSweep ..).trans (remarks_report ..)
    · exact remarks_report ..

theorem remarks_pause (c : Census) : c.pause.remarks = c.remarks := by
  unfold pause
  simp only
  split
  · exact (remarks_report ..).trans (remarks_disarm _)
  · exact remarks_disarm _

theorem remarks_setOptions (c : Census) (o : Sweep.Options) :
    ((c.setOptions o).toOption.getD c).remarks = c.remarks := by
  unfold setOptions
  cases o.check with
  | error e => rfl
  | ok u =>
      simp only [bind, Except.bind, pure, Except.pure]
      split
      · rfl
      · split
        · exact (remarks_report ..).trans (remarks_disarm _)
        · exact remarks_disarm _

theorem remarks_remove (c : Census) (a : Address) : (c.remove a).remarks = c.remarks := by
  unfold remove
  split
  · exact remarks_tell ..
  · rfl

theorem remarks_beginLookup (c : Census) (text : String) :
    (c.beginLookup text).remarks =
      ((Turn.lookUp text).faults.map fun m => .progress .error m c.now) ++ c.remarks := by
  unfold beginLookup
  split
  · next hp =>
    have hfault : (Turn.lookUp text).faults = [s!"Invalid IP address: {text}"] :=
      if_pos (by rw [hp]; rfl)
    rw [hfault]
    rfl
  · next a hp =>
    have hfault : (Turn.lookUp text).faults = [] := if_neg (by simp [hp])
    rw [hfault]
    exact remarks_report ..

theorem remarks_endLookup (c : Census) (l : Lookup) (o : Outcome) :
    (c.endLookup l o).remarks = c.remarks := by
  unfold endLookup
  simp only
  split
  · exact remarks_report ..
  · rfl

/-! ## Sweeps -/

theorem remarks_embark (c : Census) (s : Sweep) : (c.embark s).remarks = c.remarks := by
  unfold embark
  split
  · split
    · rfl
    · exact remarks_announce rfl _
  · rfl

theorem remarks_setOut (c : Census) (s : Sweep) (ns : List (String × Subnet)) :
    (c.setOut s ns).remarks = c.remarks := by
  unfold setOut
  simp only
  split <;> exact remarks_report ..

theorem remarks_listed (c : Census) (id : Nat) (s : Sweep) (names : List String) :
    (c.listed s names).remarks =
      ((Turn.list id (.ok names)).faults.map fun m => .progress .error m c.now) ++ c.remarks := by
  have hnow : (c.complainInvalid names).now = c.now :=
    congrArg Steering.now (steering_complainInvalid c names)
  unfold listed Turn.faults failure?
  simp only [List.isEmpty_iff]
  by_cases hn : named names = []
  · simp only [hn, if_true]
    rw [abort, remarks_finish, remarks_complain, remarks_complainInvalid, hnow]
    rfl
  · simp only [hn, if_false]
    split
    · rw [remarks_finish, remarks_complainInvalid]
      rfl
    · rw [remarks_setOut, remarks_complainInvalid]
      rfl

theorem remarks_dispatchNext (c : Census) (s : Sweep) :
    (c.dispatchNext s).remarks = c.remarks := by
  unfold dispatchNext
  split
  · rfl
  · split
    · rfl
    · unfold dispatch
      simp only
      split
      · rfl
      · split
        · split <;> exact remarks_report ..
        · rfl

theorem remarks_complete (c : Census) (s : Sweep) : (c.complete s).remarks = c.remarks := by
  unfold complete
  simp only [remarks_finish, remarks_report]
  split
  · exact (remarks_setNextSweep ..).trans (remarks_announce rfl _)
  · exact remarks_announce rfl _

theorem remarks_proceed {c e : Census} {s : Sweep} (h : c.proceed s = some e) :
    e.remarks = c.remarks := by
  unfold proceed at h
  split at h
  · split at h
    · cases h
      exact remarks_dispatchNext ..
    · cases h
      rfl
  · split at h
    · cases h
      exact remarks_dispatchNext ..
    · cases h
  · split at h
    · cases h
      rfl
    · cases h
  · split at h
    · cases h
    · cases h
      exact remarks_complete ..
  · cases h

theorem remarks_endProbe (c : Census) (p : Probe) (o : Outcome) :
    (c.endProbe p o).remarks = c.remarks := by
  cases o with
  | missed =>
      show (c.miss p.address).remarks = c.remarks
      unfold miss
      split
      · exact remarks_tell ..
      · rfl
  | found f =>
      show (c.meet _).remarks = c.remarks
      unfold meet
      exact remarks_tell ..
  | crashed => rfl

/-! ## The timer -/

theorem remarks_ring (c : Census) (t : Timer) : (c.ring t).remarks = c.remarks := by
  unfold ring
  split
  · rfl
  · split
    · rfl
    · split
      · exact remarks_planAhead c
      · rfl

theorem remarks_timerTurn {c e : Census} (h : c.timerTurn = some e) : e.remarks = c.remarks := by
  obtain ⟨t, -, h⟩ := Option.bind_eq_some_iff.mp h
  split at h
  · cases h
    exact remarks_ring ..
  · split at h
    · cases h
      rfl
    · cases h
  · split at h
    · cases h
      exact remarks_planAhead c
    · cases h
  · cases h

/-- A tick tells how much time is left, or nothing. -/
theorem remarks_tick {c e : Census} (h : c.take .tick = some e) :
    e.remarks = c.remarks ∨ ∃ left, e.remarks = .schedule (.countdown left) :: c.remarks := by
  obtain ⟨t, -, h⟩ := Option.bind_eq_some_iff.mp h
  simp only at h
  split at h
  · cases h
  · split at h
    · cases h
      exact .inl rfl
    · cases h
      show c.countDown.remarks = _ ∨ ∃ left, c.countDown.remarks = _
      unfold countDown
      split
      · exact .inr ⟨_, rfl⟩
      · exact .inl rfl

/-! ## Turns -/

/-- **`remarks_take`** — what a turn remarks, a tick apart, are its errors. -/
theorem remarks_take {c e : Census} {t : Turn} (h : c.take t = some e) (ht : t ≠ .tick) :
    e.remarks = (t.faults.map fun m => .progress .error m c.now) ++ c.remarks := by
  cases t with
  | start | resume =>
      cases h
      exact remarks_arm ..
  | pause =>
      cases h
      exact remarks_pause c
  | setOptions o =>
      cases h
      exact remarks_setOptions c o
  | remove a =>
      cases h
      exact remarks_remove c a
  | requestSweep =>
      cases h
      rfl
  | lookUp text =>
      cases h
      exact remarks_beginLookup c text
  | embark id =>
      obtain ⟨s, -, h⟩ := Option.bind_eq_some_iff.mp h
      split at h
      · cases h
        exact remarks_embark c s
      · cases h
  | list id names =>
      cases names with
      | ok names =>
          obtain ⟨s, -, -, -, rfl⟩ := settleListing_eq_some h
          exact remarks_listed c id s names
      | error x =>
          obtain ⟨s, -, -, -, rfl⟩ := settleListing_eq_some h
          exact (remarks_finish ..).trans (remarks_complain ..)
  | collapse id =>
      obtain ⟨s, -, -, -, rfl⟩ := settleListing_eq_some h
      rfl
  | proceed id =>
      obtain ⟨s, -, h⟩ := Option.bind_eq_some_iff.mp h
      exact remarks_proceed h
  | ping id =>
      obtain ⟨p, -, h⟩ := Option.bind_eq_some_iff.mp h
      split at h
      · cases h
      · cases h
        rfl
  | endProbe id o =>
      obtain ⟨p, -, h⟩ := Option.bind_eq_some_iff.mp h
      split at h
      · cases h
        exact remarks_endProbe c p o
      · cases h
  | endLookup id o =>
      obtain ⟨l, -, rfl⟩ := Option.map_eq_some_iff.mp h
      exact remarks_endLookup c l o
  | alarm => exact remarks_timerTurn h
  | tick => exact absurd rfl ht
  | pass n =>
      simp only [take] at h
      split at h
      · cases h
        rfl
      · cases h

theorem faults_eq (c : Census) : c.faults = c.remarks.filterMap Notice.fault? := by
  refine (c.filterMap_remarks fun n hn => ?_).symm
  unfold Notice.fault?
  split
  · cases hn
  · rfl

/-- **`faults_take`** — the errors that are announced with a turn are those of `Turn.faults`. -/
theorem faults_take {c e : Census} {t : Turn} (h : c.take t = some e) :
    e.faults = t.faults ++ c.faults := by
  rw [faults_eq, faults_eq]
  by_cases ht : t = .tick
  · subst ht
    rcases remarks_tick h with hsame | ⟨left, hleft⟩
    · rw [hsame]
      rfl
    · rw [hleft]
      rfl
  · have hread : ((t.faults.map fun m => Notice.progress .error m c.now).filterMap Notice.fault?) =
        t.faults := by
      rw [List.filterMap_map]
      exact List.filterMap_some
    rw [remarks_take h ht, List.filterMap_append, hread]

end Census

end LanCensus
