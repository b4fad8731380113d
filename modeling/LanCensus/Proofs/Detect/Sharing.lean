/-
# LanCensus.Proofs.Detect.Sharing -- calls share their searches

For a search only three steps count: one with which a call begins to search, one with which a search ends
without failing, and the passing of time. `Goes.bearing` puts every step in its place, and what holds of
searches (`Paced`, `Stale`) is carried from one inquiry to the next by these cases alone.

`Paced` is the invariant: one call at most searches, the kept search is the last one that ended without
failing, and every earlier one is more than a minute old. A call begins to search only when the kept search is
too old as well, so while it searches none is recent (`Paced.next`).

What an answered call leaves behind is a label for its address, which is never lost. A later call for that
address finds it in its first turn and asks nobody (`Settled.next`).
-/

import LanCensus.Proofs.Detect.Inquiry
import LanCensus.Proofs.Instants

namespace LanCensus.Detect

/-! ## Recent searches -/

namespace Search

variable {s : Search} {now : Instant}

/-- The search was over less than 60 seconds ago. -/
def IsRecent (s : Search) (now : Instant) : Prop :=
  (s.finished.spanTo now).nanos < (Span.ofSeconds 60).nanos

/-- A search serves as long as it is recent. -/
theorem isFresh_iff (hs : s.finished.IsPlain) (hnow : now.IsPlain) :
    s.isFresh now = true ↔ s.IsRecent now := by
  unfold isFresh IsRecent
  rw [decide_eq_true_iff, Instant.plus_of_isPlain hs]
  constructor
  · intro h
    have hnanos := Instant.toNanos_lt hnow h
    rw [Instant.toNanos_ofNanos] at hnanos
    simp only [Instant.spanTo, searchLifetime, Span.ofSeconds, nanosPerSecond] at *
    omega
  · intro h
    refine Instant.lt_of_toNanos (Instant.ofNanos_isPlain _) ?_
    rw [Instant.toNanos_ofNanos]
    simp only [Instant.spanTo, searchLifetime, Span.ofSeconds, nanosPerSecond] at *
    omega

/-- A search that is too old stays so. -/
theorem not_isRecent_plus (hnow : now.IsPlain) (h : ¬ s.IsRecent now) (t : Span) :
    ¬ s.IsRecent (now.plus t) := by
  unfold IsRecent at *
  rw [Instant.plus_of_isPlain hnow]
  simp only [Instant.spanTo, Instant.toNanos_ofNanos] at *
  omega

end Search

/-- A call that has not looked at anything yet, or has its label. -/
def CallPhase.IsIdle (phase : CallPhase) : Prop := phase = .arriving ∨ ∃ label, phase = .answered label

namespace Inquiry

variable {h k : List Occurrence} {q r : Inquiry} {x : Happening} {i j : Nat} {a : Address}

/-! ## What a step means for searches -/

/-- **`Bearing q r o`** — a step from `q` to `r` leaves searches alone, begins one, ends one, or lets time
pass; `o` is the search that has ended without failing. -/
inductive Bearing (q r : Inquiry) : Option Search → Prop
  | none : r.now = q.now → r.search = q.search → (∀ j, r.Searches j → q.Searches j) → Bearing q r .none
  | begins {i : Nat} : r.now = q.now → r.search = q.search → (∀ j, ¬ q.Searches j) →
      (∀ s ∈ q.search, s.isFresh q.now = false) → r.Searches i → (∀ j, r.Searches j → j = i) →
      Bearing q r .none
  | ends {i : Nat} {s : Search} : s.finished = q.now → r.now = q.now → r.search = some s →
      q.Searches i → (∀ j, r.Searches j → j ≠ i ∧ q.Searches j) → Bearing q r (some s)
  | time {t : Span} : r.now = q.now.plus t → r.search = q.search →
      (∀ j, r.Searches j → q.Searches j) → Bearing q r .none

theorem Goes.bearing (hg : Goes q x r) : Bearing q r (Occurrence.found? ⟨q, x, r⟩) := by
  cases hg with
  | call => exact .none rfl rfl fun j hj => searches_of_begin hj
  | remember | queue | fail | fetch =>
      exact .none rfl rfl fun j hj => (searches_of_moveOn_of_ne (by simp) hj).2
  | read => exact .none rfl rfl fun j hj => (searches_of_moveOn_of_ne (lookedUp_ne_searching _) hj).2
  | keep =>
      refine .none rfl rfl fun j hj => ?_
      exact (searches_of_moveOn_of_ne (q := { q with labels := _ }) (by simp) hj).2
  | search hc hnone hold =>
      refine .begins rfl rfl hnone hold (phase?_of_call? (call?_moveOn_self hc _)) fun j hj => ?_
      rcases searches_of_moveOn hj with ⟨hij, -⟩ | ⟨-, hq⟩
      · exact hij.symm
      · exact absurd hq (hnone j)
  | find hc =>
      refine .ends rfl rfl rfl (phase?_of_call? hc) fun j hj => ?_
      exact searches_of_moveOn_of_ne (q := { q with search := _ }) (lookedUp_ne_searching _) hj
  | pass => exact .time rfl rfl fun j hj => hj

/-! ## Searches keep their distance -/

/-- **`Paced fs q`** — the calls of an inquiry search one at a time, and none begins before the last of the
searches `fs` that have ended without failing, the latest first, is too old. -/
structure Paced (fs : List Search) (q : Inquiry) : Prop where
  plain : q.now.IsPlain
  finished_plain : ∀ s ∈ fs, s.finished.IsPlain
  search_eq : q.search = fs.head?
  older : ∀ s ∈ fs.tail, ¬ s.IsRecent q.now
  alone : ∀ i j, q.Searches i → q.Searches j → i = j
  quiet : ∀ i, q.Searches i → ∀ s ∈ fs, ¬ s.IsRecent q.now

theorem found_cons (o : Occurrence) (h : List Occurrence) :
    found (o :: h) = o.found?.toList ++ found h := by
  simp only [found, List.filterMap_cons]
  cases o.found? <;> rfl

namespace Paced

variable {fs : List Search} {s : Search} {o : Option Search}

theorem begun {now : Instant} (hnow : now.IsPlain) : Paced [] (begun now) where
  plain := hnow
  finished_plain := by simp
  search_eq := rfl
  older := by simp
  alone := by simp [Searches, phase?, Inquiry.begun, UpnpDesk.empty, UpnpDesk.call?]
  quiet := by simp

theorem isFresh_iff (hp : Paced fs q) (hs : s ∈ fs) : s.isFresh q.now = true ↔ s.IsRecent q.now :=
  Search.isFresh_iff (hp.finished_plain s hs) hp.plain

theorem mem_of_search (hp : Paced fs q) (hs : q.search = some s) : s ∈ fs :=
  List.mem_of_head? (hp.search_eq.symm.trans hs)

/-- A search that is recent is the one that is kept. -/
theorem search_of_isRecent (hp : Paced fs q) (hs : s ∈ fs) (hrecent : s.IsRecent q.now) :
    q.search = some s := by
  rw [hp.search_eq]
  cases fs with
  | nil => cases hs
  | cons last rest =>
      rcases List.mem_cons.mp hs with rfl | hrest
      · rfl
      · exact absurd hrecent (hp.older s hrest)

/-- When the kept search does not serve any more, none is recent. -/
theorem not_isRecent (hp : Paced fs q) (hold : ∀ s ∈ q.search, s.isFresh q.now = false) :
    ∀ s ∈ fs, ¬ s.IsRecent q.now := by
  intro s hs hrecent
  have hstale := hold s (hp.search_of_isRecent hs hrecent)
  rw [(hp.isFresh_iff hs).mpr hrecent] at hstale
  cases hstale

/-- **`Paced.next`** — the invariant is carried by every step. -/
theorem next (hp : Paced fs q) (hb : Bearing q r o) : Paced (o.toList ++ fs) r := by
  cases hb with
  | none hnow hsearch hs =>
      exact {
        plain := hnow ▸ hp.plain
        finished_plain := hp.finished_plain
        search_eq := hsearch.trans hp.search_eq
        older := hnow ▸ hp.older
        alone := fun i j hi hj => hp.alone i j (hs i hi) (hs j hj)
        quiet := fun i hi => hnow ▸ hp.quiet i (hs i hi) }
  | begins hnow hsearch _ hold _ honly =>
      exact {
        plain := hnow ▸ hp.plain
        finished_plain := hp.finished_plain
        search_eq := hsearch.trans hp.search_eq
        older := hnow ▸ hp.older
        alone := fun i j hi hj => (honly i hi).trans (honly j hj).symm
        quiet := fun _ _ => hnow ▸ hp.not_isRecent hold }
  | @ends i s hs hnow hsearch hi honly =>
      -- The only call that searched has ended its search.
      have hover : ∀ j, ¬ r.Searches j := fun j hj =>
        (honly j hj).1 (hp.alone j i (honly j hj).2 hi)
      exact {
        plain := hnow ▸ hp.plain
        finished_plain := List.forall_mem_cons.mpr ⟨hs ▸ hp.plain, hp.finished_plain⟩
        search_eq := hsearch
        older := hnow ▸ hp.quiet i hi
        alone := fun j _ hj => absurd hj (hover j)
        quiet := fun j hj => absurd hj (hover j) }
  | @time t hnow hsearch hs =>
      have hlater : ∀ s : Search, ¬ s.IsRecent q.now → ¬ s.IsRecent r.now := fun s hold =>
        hnow ▸ Search.not_isRecent_plus hp.plain hold t
      exact {
        plain := hnow ▸ Instant.plus_of_isPlain hp.plain t ▸ Instant.ofNanos_isPlain _
        finished_plain := hp.finished_plain
        search_eq := hsearch.trans hp.search_eq
        older := fun s hmem => hlater s (hp.older s hmem)
        alone := fun i j hi hj => hp.alone i j (hs i hi) (hs j hj)
        quiet := fun i hi s hmem => hlater s (hp.quiet i (hs i hi) s hmem) }

/-- **`Paced.course`** — the invariant is carried along every course. -/
theorem course (hp : Paced fs q) (hk : Course q k r) : Paced (found k ++ fs) r := by
  induction hk with
  | start => exact hp
  | next _ hstep ih =>
      rw [found_cons, List.append_assoc]
      exact ih.next (goes_of_step hstep).bearing

end Paced

/-- **`Stale fs q`** — no call searches, and none of the searches `fs` is recent. -/
structure Stale (fs : List Search) (q : Inquiry) : Prop where
  free : ∀ j, ¬ q.Searches j
  old : ∀ s ∈ fs, ¬ s.IsRecent q.now

namespace Stale

variable {fs : List Search} {o : Option Search}

/-- That no search serves any more is carried by every step with which no call begins to search. -/
theorem next (hst : Stale fs q) (hp : Paced fs q) (hb : Bearing q r o)
    (hno : ∀ j, r.Searches j → q.Searches j) : Stale (o.toList ++ fs) r := by
  have hfree : ∀ j, ¬ r.Searches j := fun j hj => hst.free j (hno j hj)
  cases hb with
  | none hnow => exact ⟨hfree, hnow ▸ hst.old⟩
  | begins _ _ _ _ hi => exact absurd hi (hfree _)
  | ends _ _ _ hi => exact absurd hi (hst.free _)
  | time hnow =>
      exact ⟨hfree, fun s hs => hnow ▸ Search.not_isRecent_plus hp.plain (hst.old s hs) _⟩

theorem course (hst : Stale fs q) (hp : Paced fs q) (hk : Course q k r)
    (hno : ∀ x ∈ k, ¬ x.BeginsSearch) : Stale (found k ++ fs) r := by
  induction hk with
  | start => exact hst
  | next hk hstep ih =>
      obtain ⟨hlast, hbefore⟩ := List.forall_mem_cons.mp hno
      rw [found_cons, List.append_assoc]
      refine (ih hbefore).next (hp.course hk) (goes_of_step hstep).bearing fun j hj => ?_
      exact Classical.byContradiction fun hq => hlast ⟨j, hq, hj⟩

end Stale

/-! ## What calls come to when they have their turns -/

/-- **`q.TurnsTo phase`** — every call for whose address no label is kept goes on to a phase, which depends
on that address alone, if it has its turns next. -/
structure TurnsTo (q : Inquiry) (phase : Address → CallPhase) : Prop where
  waiting : ∀ i a, q.call? i = some ⟨a, .waiting⟩ →
    ∃ r, q.step (.takeTurn i) = some r ∧ r.call? i = some ⟨a, phase a⟩
  arriving : ∀ i a, q.call? i = some ⟨a, .arriving⟩ → q.labels.get? a = none →
    ∃ r, q.replay [.consult i, .takeTurn i] = some r ∧ r.call? i = some ⟨a, phase a⟩

theorem turnsTo_atTurn (hnone : ∀ j, ¬ q.Searches j) : q.TurnsTo q.atTurn where
  waiting i a hc := ⟨_, step_takeTurn hc hnone, call?_moveOn_self hc _⟩
  arriving i a hc hl := by
    have hwaits := call?_moveOn_self hc .waiting
    have hnone' : ∀ j, ¬ (q.moveOn i .waiting).Searches j := fun j hj =>
      hnone j (searches_of_moveOn_of_ne (by simp) hj).2
    refine ⟨_, ?_, call?_moveOn_self hwaits _⟩
    simp only [replay, List.foldlM_cons, List.foldlM_nil, step_consult hc hl, Option.bind_eq_bind,
      Option.bind_some, step_takeTurn hwaits hnone']
    rfl

namespace Paced

variable {fs : List Search} {s : Search}

/-- As long as a search is recent no call searches, and all read what it has found. -/
theorem reads (hp : Paced fs q) (hs : s ∈ fs) (hrecent : s.IsRecent q.now) :
    (∀ j, ¬ q.Searches j) ∧ q.TurnsTo fun a => .lookedUp (s.found.get? a) := by
  have hnone : ∀ j, ¬ q.Searches j := fun j hj => hp.quiet j hj s hs hrecent
  have hturn : q.atTurn = fun a => .lookedUp (s.found.get? a) := by
    funext a
    have hread : q.search.filter (·.isFresh q.now) = some s := Option.filter_eq_some_iff.mpr
      ⟨hp.search_of_isRecent hs hrecent, (hp.isFresh_iff hs).mpr hrecent⟩
    rw [atTurn, hread]
    rfl
  exact ⟨hnone, hturn ▸ turnsTo_atTurn hnone⟩

/-- When none is recent, a call searches. -/
theorem searchesAgain (hp : Paced fs q) (hst : Stale fs q) : q.TurnsTo fun _ => .searching := by
  have hturn : q.atTurn = fun _ => .searching := by
    funext a
    have hnot : q.search.filter (·.isFresh q.now) = none := Option.filter_eq_none_iff.mpr fun s hs hf =>
      hst.old s (hp.mem_of_search hs) ((hp.isFresh_iff (hp.mem_of_search hs)).mp hf)
    rw [atTurn, hnot]
    rfl
  exact hturn ▸ turnsTo_atTurn hst.free

end Paced

/-! ## Answered calls -/

/-- No label that is kept is lost. -/
theorem Goes.isSome_label (hg : Goes q x r) (hl : (q.labels.get? a).isSome) :
    (r.labels.get? a).isSome := by
  cases hg with
  | keep =>
      simp only [moveOn_labels, AddressMap.get?_insert]
      split
      · rfl
      · exact hl
  | _ => exact hl

/-- **`Remembers q`** — every answered call has left a label for its address. -/
def Remembers (q : Inquiry) : Prop :=
  q.Every fun _ a phase => ∀ label, phase = .answered label → (q.labels.get? a).isSome

theorem Remembers.begun (now : Instant) : (begun now).Remembers := by
  intro j a phase hj
  cases hj

theorem Remembers.next (hq : q.Remembers) (hg : Goes q x r) : r.Remembers := by
  cases hg with
  | call => exact every_begin hq fun _ h => by cases h
  | remember hc hl => exact every_moveOn hq hc fun _ _ => Option.isSome_iff_exists.mpr ⟨_, hl⟩
  | queue hc | search hc | fail hc | fetch hc => exact every_moveOn hq hc fun _ h => by cases h
  | read hc => exact every_moveOn hq hc fun _ h => absurd h (lookedUp_ne_answered _ _)
  | find hc =>
      exact every_moveOn (q := { q with search := _ }) hq hc fun _ h =>
        absurd h (lookedUp_ne_answered _ _)
  | keep hc =>
      have hold : q.Every fun _ b phase => ∀ l, phase = .answered l → _ := fun j b phase hj l h =>
        (Goes.keep hc).isSome_label (hq j b phase hj l h)
      refine every_moveOn (q := { q with labels := _ }) hold hc fun _ _ => ?_
      rw [moveOn_labels, AddressMap.get?_insert, if_pos rfl]
      rfl
  | pass => exact hq

theorem Remembers.course (hq : q.Remembers) (hk : Course q k r) : r.Remembers :=
  hk.keeps Remembers.next hq

/-- **`Settled n a q`** — a label is kept for an address, and the calls for it from number `n` on ask nobody.
-/
structure Settled (n : Nat) (a : Address) (q : Inquiry) : Prop where
  kept : (q.labels.get? a).isSome
  idle : q.Every fun j b phase => n ≤ j → b = a → phase.IsIdle

/-- Of the calls from number `n` on for that address none goes through a phase that is not idle. -/
theorem Settled.idle_moveOn {n : Nat} {b : Address} {old phase : CallPhase} (hs : Settled n a q)
    (hc : q.call? i = some ⟨b, old⟩) (hold : ¬ old.IsIdle) :
    (q.moveOn i phase).Every fun j b phase => n ≤ j → b = a → phase.IsIdle :=
  every_moveOn hs.idle hc fun hj hb => absurd (hs.idle _ _ _ hc hj hb) hold

theorem Settled.next {n : Nat} (hs : Settled n a q) (hg : Goes q x r) : Settled n a r := by
  refine ⟨hg.isSome_label hs.kept, ?_⟩
  cases hg with
  | call => exact every_begin hs.idle fun _ _ => .inl rfl
  | remember hc => exact every_moveOn hs.idle hc fun _ _ => .inr ⟨_, rfl⟩
  | queue hc hl =>
      refine every_moveOn hs.idle hc fun _ hb => ?_
      have hkept := hs.kept
      rw [← hb, hl] at hkept
      cases hkept
  | search hc | read hc | find hc | fail hc | fetch hc | keep hc =>
      exact hs.idle_moveOn hc (by simp [CallPhase.IsIdle])
  | pass => exact hs.idle

theorem Settled.course {n : Nat} (hs : Settled n a q) (hk : Course q k r) : Settled n a r :=
  hk.keeps Settled.next hs

/-- An answered call settles its address for every call that begins later. -/
theorem Remembers.settled (hq : q.Remembers) {label : Option String}
    (hc : q.call? i = some ⟨a, .answered label⟩) : Settled q.calls.length a q where
  kept := hq i a _ hc label rfl
  idle j _ _ hj hlater := by
    have hlt : j < q.calls.length := (List.getElem?_eq_some_iff.mp hj).1
    omega

/-! ## The whole -/

/-- **`IsShared h q`** — how the calls of the course `h` that has led to `q` share their searches. -/
structure IsShared (h : List Occurrence) (q : Inquiry) : Prop where
  /-- No two searches overlap. -/
  alone : ∀ i j, q.Searches i → q.Searches j → i = j
  /-- While a call searches, no search has ended without failing in the last 60 seconds. -/
  spaced : ∀ i, q.Searches i → ∀ s ∈ found h, ¬ s.IsRecent q.now
  /-- When a search ends without failing, its call reads what it has found. So do all others that find it or
  have waited for it, and nobody searches, until it was over 60 seconds ago. -/
  reads : ∀ i a responders, q.call? i = some ⟨a, .searching⟩ →
    ∃ r, q.step (.endSearch i (some responders)) = some r ∧
      r.call? i = some ⟨a, .lookedUp (responders.get? a)⟩ ∧
      ∀ k p, Course r k p → (Search.mk q.now responders).IsRecent p.now →
        (∀ j, ¬ p.Searches j) ∧ p.TurnsTo fun b => .lookedUp (responders.get? b)
  /-- A search that fails leaves the kept search as it is, and until a call begins to search every one that
  has its turn does. -/
  fails : ∀ i a, q.call? i = some ⟨a, .searching⟩ →
    ∃ r, q.step (.endSearch i none) = some r ∧ r.search = q.search ∧
      ∀ k p, Course r k p → (∀ x ∈ k, ¬ x.BeginsSearch) → p.TurnsTo fun _ => .searching
  /-- Once a call has its label, no later one for its address ever searches or fetches. -/
  settled : ∀ i a label, q.call? i = some ⟨a, .answered label⟩ → ∀ k p, Course q k p →
    ∀ j phase, q.calls.length ≤ j → p.call? j = some ⟨a, phase⟩ → phase.IsIdle

/-- What a search has found is read as long as it is recent. -/
theorem Paced.reads_of_find {fs : List Search} (hp : Paced fs q) (hc : q.call? i = some ⟨a, .searching⟩)
    {responders : Responders}
    (hk : Course (moveOn { q with search := some ⟨q.now, responders⟩ } i (.lookedUp (responders.get? a))) k r)
    (hrecent : (Search.mk q.now responders).IsRecent r.now) :
    (∀ j, ¬ r.Searches j) ∧ r.TurnsTo fun b => .lookedUp (responders.get? b) := by
  have hfound : Paced (⟨q.now, responders⟩ :: fs) _ := hp.next (Goes.find hc).bearing
  exact (hfound.course hk).reads (List.mem_append_right _ List.mem_cons_self) hrecent

/-- After a search that has failed no search serves, until another one begins. -/
theorem Paced.searchesAgain_of_fail {fs : List Search} (hp : Paced fs q)
    (hc : q.call? i = some ⟨a, .searching⟩) (hk : Course (q.moveOn i (.closing none)) k r)
    (hno : ∀ x ∈ k, ¬ x.BeginsSearch) : r.TurnsTo fun _ => .searching := by
  have hi : q.Searches i := phase?_of_call? hc
  have hfailed : Paced fs (q.moveOn i (.closing none)) := hp.next (Goes.fail hc).bearing
  have hstale : Stale fs (q.moveOn i (.closing none)) := by
    refine ⟨fun j hj => ?_, hp.quiet i hi⟩
    obtain ⟨hne, hq⟩ := searches_of_moveOn_of_ne (by simp) hj
    exact hne (hp.alone j i hq hi)
  exact (hfailed.course hk).searchesAgain (hstale.course hfailed hk hno)

/-- **`searches_shared`** — whatever calls begin, whenever each goes on, and whatever its search and its
fetch come to, searches are shared. -/
theorem searches_shared {now : Instant} (hnow : now.IsPlain) (hq : Course (begun now) h q) :
    IsShared h q := by
  have hpaced : Paced (found h) q := by
    have hcourse := (Paced.begun hnow).course hq
    rwa [List.append_nil] at hcourse
  have hremembers : q.Remembers := (Remembers.begun now).course hq
  exact {
    alone := hpaced.alone
    spaced := hpaced.quiet
    reads := fun i a responders hc =>
      ⟨_, step_find hc responders, call?_moveOn_self hc _, fun k p hk => hpaced.reads_of_find hc hk⟩
    fails := fun i a hc =>
      ⟨_, step_fail hc, rfl, fun k p hk => hpaced.searchesAgain_of_fail hc hk⟩
    settled := fun i a label hc k p hk j phase hj hp =>
      ((hremembers.settled hc).course hk).idle j a phase hp hj rfl }

/-- One call has searched, fetched in vain and ended; 60 seconds later another one searches, and a third one
waits for it. -/
def threeCalls : List Happening :=
  [.call ⟨10, 0, 0, 7⟩, .consult 0, .takeTurn 0, .pass (.ofSeconds 3),
   .endSearch 0 (some (.insert .empty ⟨10, 0, 0, 7⟩ "http://10.0.0.7/".toList)), .endFetch 0 none, .keep 0,
   .pass (.ofSeconds 60), .call ⟨10, 0, 0, 8⟩, .consult 1, .takeTurn 1,
   .call ⟨10, 0, 0, 9⟩, .consult 2, .pass (.ofSeconds 1)]

theorem threeCalls_shared :
    (⟨50, 0⟩ : Instant).IsPlain ∧ ∃ q, (begun ⟨50, 0⟩).replay threeCalls = some q ∧
      q.calls = [⟨⟨10, 0, 0, 7⟩, .answered (some "UPnP Device")⟩, ⟨⟨10, 0, 0, 8⟩, .searching⟩,
        ⟨⟨10, 0, 0, 9⟩, .waiting⟩] ∧
      Course (begun ⟨50, 0⟩) ((begun ⟨50, 0⟩).record threeCalls) q ∧
      IsShared ((begun ⟨50, 0⟩).record threeCalls) q := by
  have hplain : (⟨50, 0⟩ : Instant).IsPlain := by
    show 0 < nanosPerSecond
    decide
  have hcalls : ((begun ⟨50, 0⟩).replay threeCalls).map (·.calls) = some
      [⟨⟨10, 0, 0, 7⟩, .answered (some "UPnP Device")⟩, ⟨⟨10, 0, 0, 8⟩, .searching⟩,
        ⟨⟨10, 0, 0, 9⟩, .waiting⟩] := by decide +kernel
  obtain ⟨q, hq, hc⟩ := Option.map_eq_some_iff.mp hcalls
  have hcourse := course_of_replay hq
  exact ⟨hplain, q, hq, hc, hcourse, searches_shared hplain hcourse⟩

end Inquiry

end LanCensus.Detect
