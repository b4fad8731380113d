/-
# LanCensus.Proofs.Service.Session -- what a client has been told

A client is told of devices twice over: by the copy of the inventory that its greeting is made from, and by
the stream. The two overlap. The task subscribes before it copies, so a change that was announced between
the two is in the copy and comes through the stream once more, and so may changes that are older than the
subscription, if they were still on their way. But none is missing, and `Informed` says why: whatever had
gone through the stream when the task subscribed had been announced before the copy, and of what came after
it the client has been told in order, as far as the task has come.

`Session.Goes` lists all that a move can do to a session, each case with the condition under which it
happens. What the client has been told goes by cases on it. A session that nothing comes between does what
`Client.connect` and `Client.catchUp` do in one go (`replay_greeting`, `exists_replay_catchUp`).
-/

import LanCensus.Proofs.Census.Copies
import LanCensus.Proofs.Service.Conveyance
import LanCensus.Service.Session

namespace LanCensus.Service

namespace Session

variable {s t : Session} {b : Office} {d : Desk}

/-! ## All that can happen -/

/-- **`Goes s b t`** — a move at the office `b` can take the session `s` to `t`. -/
inductive Goes (s : Session) (b : Office) : Session → Prop
  | subscribe : s.stage = .arrived →
      Goes s b { s with
        stage := .subscribed
        client := { s.client with passed := b.desk.stream.length } }
  -- The greeting is put together.
  | copy : s.stage = .subscribed →
      Goes s b { s with
        stage := .copied (b.census.inventory.toList.map fun d => .device (.discovered d)) }
  | date {ns : List Notice} : s.stage = .copied ns →
      Goes s b { s with stage := .dated (ns ++ [.schedule (.nextSweep b.census.nextSweep)]) }
  | complete {ns : List Notice} : s.stage = .dated ns →
      Goes s b { s with
        stage := .telling
          (ns ++ b.census.lastSweep.toList.map fun t => .schedule (.sweepCompleted t)) }
  -- The client is told.
  | tell {n : Notice} {ns : List Notice} : s.stage = .telling (n :: ns) →
      Goes s b { s.tell n with stage := .telling ns }
  | hear {n : Notice} : s.stage = .telling [] →
      (unheard s.client.passed b.desk.stream).head? = some n → Goes s b ((s.tell n).advance 1)
  | lose {k : Nat} : s.stage = .telling [] → 0 < k →
      Goes s b { s.advance k with missed := s.missed + k }
  -- The client has its say.
  | accept (f : Frame) : s.stage = .telling [] → Goes s b { s with client := s.client.accept f }
  | vanish : Goes s b { s with client := s.client.vanish }

theorem goes_of_hear (hstage : s.stage = .telling []) (h : s.hear b.desk = some t) : Goes s b t := by
  unfold hear at h
  simp only at h
  split at h
  · obtain ⟨n, hn, rfl⟩ := Option.map_eq_some_iff.mp h
    exact .hear hstage hn
  · next hlost =>
    cases h
    exact .lose hstage (Nat.pos_of_ne_zero hlost)

theorem goes_of_proceed (h : s.proceed b = some t) : Goes s b t := by
  unfold proceed at h
  split at h <;> rename_i hstage
  case h_6 => exact goes_of_hear hstage h
  all_goals cases h
  · exact .subscribe hstage
  · exact .copy hstage
  · exact .date hstage
  · exact .complete hstage
  · exact .tell hstage

/-- **`goes_of_step`** — every move is one of these. -/
theorem goes_of_step {m : Move} (h : s.step b m = some t) : Goes s b t := by
  cases m with
  | proceed =>
      simp only [step] at h
      split at h
      · exact goes_of_proceed h
      · cases h
  | frame f =>
      simp only [step] at h
      split at h
      · next hlook =>
        cases h
        rw [Bool.and_eq_true, decide_eq_true_eq] at hlook
        exact .accept f hlook.2
      · cases h
  | vanish =>
      cases h
      exact .vanish

/-- **`s.HasPassed before d`** — of the notices in the stream, `before` have gone by. -/
structure HasPassed (s : Session) (before : List Notice) (d : Desk) : Prop where
  suffix : before <:+ d.stream
  count : s.client.passed = before.length

namespace HasPassed

variable {before : List Notice}

theorem of_suffix (h : s.HasPassed before d) {e : Desk} (he : d.stream <:+ e.stream) :
    s.HasPassed before e :=
  ⟨h.suffix.trans he, h.count⟩

/-- The next notice goes by. -/
theorem hear (h : s.HasPassed before d) {n : Notice}
    (hn : (unheard s.client.passed d.stream).head? = some n) :
    ((s.tell n).advance 1).HasPassed (n :: before) d := by
  obtain ⟨⟨later, hlater⟩, hcount⟩ := h
  rw [hcount, ← hlater, unheard_append] at hn
  obtain ⟨rest, hrest⟩ := List.head?_eq_some_iff.mp hn
  refine ⟨⟨rest.reverse, ?_⟩, congrArg (· + 1) hcount⟩
  rw [← hlater, ← List.reverse_reverse later, hrest, List.reverse_cons, List.append_assoc]
  rfl

end HasPassed

/-! ## A session that nothing comes between -/

/-- The session after moves one by one, the first in front, unless one cannot be made. -/
def replay (s : Session) (b : Office) (ms : List Move) : Option Session := ms.foldlM (·.step b ·) s

theorem replay_proceed_cons {n : Nat} (hs : s.step b .proceed = some t) :
    s.replay b (List.replicate (n + 1) .proceed) = t.replay b (List.replicate n .proceed) := by
  rw [replay, List.replicate_succ, List.foldlM_cons, hs]
  rfl

/-- What is left of the greeting is told. -/
theorem replay_telling {cl : Client} (hcl : cl.connected = true) (ns : List Notice) (m : Nat) :
    replay ⟨.telling ns, cl, m⟩ b (List.replicate ns.length .proceed) =
      some ⟨.telling [], { cl with received := (ns.map .notice).reverse ++ cl.received }, m⟩ := by
  induction ns generalizing cl with
  | nil => rfl
  | cons n ns ih =>
      have hstep : step ⟨.telling (n :: ns), cl, m⟩ b .proceed =
          some ⟨.telling ns, cl.deliver (.notice n), m⟩ := if_pos hcl
      have htold : (cl.deliver (.notice n)).connected = true := hcl
      rw [List.length_cons, replay_proceed_cons hstep, ih htold, List.map_cons, List.reverse_cons,
        List.append_assoc]
      rfl

/-- **`replay_greeting`** — a client that arrives and is greeted while nothing else happens is one that
connects in one go. -/
theorem replay_greeting (b : Office) :
    arrived.replay b (List.replicate ((Client.greeting b.census).length + 4) .proceed) =
      some ⟨.telling [], .connect b.census b.desk, 0⟩ := by
  have htell : Session.replay ⟨.telling (Client.greeting b.census), ⟨b.desk.stream.length, [], true⟩, 0⟩ b
      (List.replicate (Client.greeting b.census).length .proceed) =
        some ⟨.telling [], .connect b.census b.desk, 0⟩ := by
    rw [replay_telling rfl, List.append_nil]
    rfl
  exact htell

/-- After the greeting the task turns to the stream. -/
theorem step_hearing {cl : Client} (hcl : cl.connected = true) (m : Nat) :
    step ⟨.telling [], cl, m⟩ b .proceed = hear ⟨.telling [], cl, m⟩ b.desk := if_pos hcl

/-- What comes through the stream is heard, as long as nothing of it is lost. -/
theorem replay_hearing {cl : Client} (hcl : cl.connected = true) {ns before : List Notice}
    (hstream : b.desk.stream = ns.reverse ++ before) (hpassed : cl.passed = before.length)
    (hlost : lost ns = 0) (m : Nat) :
    replay ⟨.telling [], cl, m⟩ b (List.replicate ns.length .proceed) =
      some ⟨.telling [], { cl with
        passed := b.desk.stream.length
        received := (ns.map .notice).reverse ++ cl.received }, m⟩ := by
  induction ns generalizing cl before with
  | nil =>
      rw [hstream, List.reverse_nil, List.nil_append, ← hpassed]
      rfl
  | cons n ns ih =>
      have hpending : unheard cl.passed b.desk.stream = n :: ns := by
        rw [hpassed, hstream, unheard_append, List.reverse_reverse]
      have hstep : step ⟨.telling [], cl, m⟩ b .proceed =
          some ⟨.telling [], { cl.deliver (.notice n) with passed := cl.passed + 1 }, m⟩ := by
        simp only [step_hearing hcl, hear, hpending, hlost, if_true, List.head?_cons, Option.map_some]
        rfl
      have htold : ({ cl.deliver (.notice n) with passed := cl.passed + 1 } : Client).connected = true :=
        hcl
      have hfewer : lost ns = 0 := by
        simp only [lost, List.length_cons] at hlost ⊢
        omega
      have hnext : b.desk.stream = ns.reverse ++ n :: before := by
        rw [hstream, List.reverse_cons, List.append_assoc]
        rfl
      rw [List.length_cons, replay_proceed_cons hstep, ih htold hnext (congrArg (· + 1) hpassed) hfewer,
        List.map_cons, List.reverse_cons, List.append_assoc]
      rfl

/-- What can still be heard is no more than the stream keeps. -/
theorem lost_audible (ns : List Notice) : lost (audible ns) = 0 := by
  simp only [lost, audible, List.length_drop]
  omega

/-- **`exists_replay_catchUp`** — a client that is left to hear the stream has at last caught up. -/
theorem exists_replay_catchUp {cl : Client} (hcl : cl.connected = true) {later before : List Notice}
    (hstream : b.desk.stream = later ++ before) (hpassed : cl.passed = before.length) (m : Nat) :
    ∃ k, replay ⟨.telling [], cl, m⟩ b (List.replicate k .proceed) =
      some ⟨.telling [], cl.catchUp b.desk, m + lost later.reverse⟩ := by
  have hpending : unheard cl.passed b.desk.stream = later.reverse := by
    rw [hpassed, hstream, unheard_append]
  have hcaught : cl.catchUp b.desk = { cl with
      passed := b.desk.stream.length
      received := ((audible later.reverse).map .notice).reverse ++ cl.received } := by
    simp only [Client.catchUp, hcl, if_true, hpending]
  rw [hcaught]
  by_cases hlost : lost later.reverse = 0
  · have hall : audible later.reverse = later.reverse := by rw [audible, hlost, List.drop_zero]
    rw [hall, hlost, Nat.add_zero]
    exact ⟨_, replay_hearing hcl (by rw [List.reverse_reverse, hstream]) hpassed hlost m⟩
  · -- First the task learns what it has lost.
    have hstep : step ⟨.telling [], cl, m⟩ b .proceed = some ⟨.telling [],
        { cl with passed := cl.passed + lost later.reverse }, m + lost later.reverse⟩ := by
      simp only [step_hearing hcl, hear, hpending, hlost, if_false]
      rfl
    obtain ⟨gone, hgone, hlength⟩ : ∃ gone, gone ++ audible later.reverse = later.reverse ∧
        gone.length = lost later.reverse :=
      ⟨_, List.take_append_drop (lost later.reverse) _, List.length_take_of_le (Nat.sub_le _ _)⟩
    have hrest : b.desk.stream = (audible later.reverse).reverse ++ (gone.reverse ++ before) := by
      rw [← List.append_assoc, ← List.reverse_append, hgone, List.reverse_reverse, hstream]
    have hcount : cl.passed + lost later.reverse = (gone.reverse ++ before).length := by
      rw [List.length_append, List.length_reverse, hlength, hpassed, Nat.add_comm]
    have htold : ({ cl with passed := cl.passed + lost later.reverse } : Client).connected = true := hcl
    refine ⟨(audible later.reverse).length + 1, ?_⟩
    rw [replay_proceed_cons hstep]
    exact replay_hearing htold hrest hcount (lost_audible _) _

/-! ## Changes of devices that a client was told of -/

end Session

/-- The change of a device that a client is told of. -/
def Delivery.change? : Delivery → Option DeviceNotice
  | .notice n => n.device?
  | _ => none

/-- The changes of devices that a client has been told of, the latest first. -/
def Client.changes (cl : Client) : List DeviceNotice := cl.received.filterMap Delivery.change?

theorem Client.changes_deliver (cl : Client) (n : Notice) :
    (cl.deliver (.notice n)).changes = n.device?.toList ++ cl.changes := by
  unfold changes deliver
  rw [List.filterMap_cons, Delivery.change?]
  cases n.device? <;> rfl

/-- What is left of the greeting. -/
def Stage.left : Stage → List Notice
  | .arrived | .subscribed => []
  | .copied ns | .dated ns | .telling ns => ns

namespace Session

variable {s : Session}

/-- The changes of devices that the client will have been told of when it has been greeted, the latest
first. -/
def changes (s : Session) : List DeviceNotice :=
  (s.stage.left.filterMap Notice.device?).reverse ++ s.client.changes

/-- When the client has been greeted nothing is left. -/
theorem changes_of_greeted (hs : s.stage = .telling []) : s.changes = s.client.changes := by
  rw [changes, hs]
  rfl

end Session

/-- **`Attended o h p s`** — the office has come from `o` to `p` through the entries `h`, and meanwhile
a client that arrived has come to the session `s`. -/
inductive Attended (o : Operation) : List Entry → Operation → Session → Prop
  | start : Attended o [] o .arrived
  | office {h : List Entry} {p q : Operation} {s : Session} {x : Happening} :
      Attended o h p s → p.step x = some q → Attended o (⟨p, x, q⟩ :: h) q s
  | session {h : List Entry} {p : Operation} {s t : Session} {m : Move} :
      Attended o h p s → s.step p.toOffice m = some t → Attended o h p t

namespace Visit

/-- The visit after what happens one by one, the first in front, unless something cannot happen. -/
def replay (v : Visit) (xs : List Event) : Option Visit := xs.foldlM step v

/-- The entries of the office in what happens one by one. -/
def record (v : Visit) : List Event → List Entry
  | [] => []
  | x :: xs =>
    match v.step x with
    | none => []
    | some w =>
      match x with
      | .office y => w.record xs ++ [⟨v.operation, y, w.operation⟩]
      | .session _ => w.record xs

end Visit

/-- What happens one by one goes on with a visit. -/
theorem Attended.replay {o : Operation} {v w : Visit} {k : List Entry} {xs : List Visit.Event}
    (hv : Attended o k v.operation v.session) (h : v.replay xs = some w) :
    Attended o (v.record xs ++ k) w.operation w.session := by
  induction xs generalizing v k with
  | nil =>
      cases h
      exact hv
  | cons x xs ih =>
      obtain ⟨u, hu, hrest⟩ := Option.bind_eq_some_iff.mp h
      cases x with
      | office y =>
          obtain ⟨p, hp, rfl⟩ := Option.map_eq_some_iff.mp hu
          simp only [Visit.record, hu, List.append_assoc]
          exact ih (hv.office hp) hrest
      | session m =>
          obtain ⟨t, ht, rfl⟩ := Option.map_eq_some_iff.mp hu
          simp only [Visit.record, hu]
          exact ih (hv.session ht) hrest

/-- **`Told o h p s`** — in a visit from `o` to `p` the inventory was copied at `q`, after `earlier` and
before `later`. The client is told of all devices that were in it, and then of the changes `heard`, which
have come through the stream after `first`. -/
inductive Told (o : Operation) (h : List Entry) (p : Operation) (s : Session) : Prop
  | intro {earlier later : List Entry} {q : Operation} {before : List Notice}
      {heard first : List DeviceNotice} : h = later ++ earlier → Log o earlier q → Log q later p →
      s.changes = heard ++ q.census.inventory.introduction.reverse →
      s.HasPassed before p.desk → before.filterMap Notice.device? = heard ++ first →
      first <:+ q.census.records.changes → Told o h p s

/-- **`Informed o h p s`** — in a visit from `o` to `p`, what the client has been told so far. -/
def Informed (o : Operation) (h : List Entry) (p : Operation) (s : Session) : Prop :=
  match s.stage with
  | .arrived => s.client.changes = []
  | .subscribed => s.client.changes = [] ∧ ∃ before, s.HasPassed before p.desk
  | .copied _ | .dated _ | .telling _ => Told o h p s

section

variable {o p q : Operation} {h : List Entry} {s t : Session}

namespace Told

/-- What tells nothing of devices. -/
theorem congr (hs : Told o h p s) (hchanges : t.changes = s.changes)
    (hcount : t.client.passed = s.client.passed) : Told o h p t := by
  obtain ⟨hh, he, hl, hc, hpassed, hheard, hfirst⟩ := hs
  exact ⟨hh, he, hl, hchanges.trans hc, ⟨hpassed.suffix, hcount.trans hpassed.count⟩, hheard, hfirst⟩

/-- The office goes on. -/
theorem office (hs : Told o h p s) {x : Happening} (hx : p.step x = some q) :
    Told o (⟨p, x, q⟩ :: h) q s := by
  obtain ⟨hh, he, hl, hc, hpassed, hheard, hfirst⟩ := hs
  exact ⟨congrArg (_ :: ·) hh, he, hl.entry hx, hc, hpassed.of_suffix (Operation.stream_step hx), hheard,
    hfirst⟩

/-- The inventory is copied. What has gone through the stream was announced before. -/
theorem copy (hp : p.Conveys) (hlog : Log o h p) {before : List Notice}
    (hpassed : s.HasPassed before p.desk)
    (hc : s.changes = p.census.inventory.introduction.reverse) : Told o h p s := by
  refine ⟨(List.nil_append h).symm, hlog, .start, hc, hpassed, (List.nil_append _).symm, ?_⟩
  rw [hp.changes]
  exact (hpassed.suffix.filterMap Notice.device?).trans (List.suffix_append _ _)

/-- The next notice of the stream is heard. -/
theorem hear (hs : Told o h p s) (hstage : s.stage = .telling []) {n : Notice}
    (hn : (unheard s.client.passed p.desk.stream).head? = some n) :
    Told o h p ((s.tell n).advance 1) := by
  obtain @⟨_, _, r, _, heard, _, hh, he, hl, hc, hpassed, hheard, hfirst⟩ := hs
  have hchanges : ((s.tell n).advance 1).changes =
      (n.device?.toList ++ heard) ++ r.census.inventory.introduction.reverse := by
    rw [List.append_assoc, ← hc, Session.changes_of_greeted hstage, ← Client.changes_deliver]
    exact Session.changes_of_greeted hstage
  refine ⟨hh, he, hl, hchanges, hpassed.hear hn, ?_, hfirst⟩
  rw [List.append_assoc, ← hheard, List.filterMap_cons]
  cases n.device? <;> rfl

end Told

namespace Informed

/-- **`Informed.office`** — what the client has been told stays true while the office goes on. -/
theorem office (hi : Informed o h p s) {x : Happening} (hx : p.step x = some q) :
    Informed o (⟨p, x, q⟩ :: h) q s := by
  unfold Informed at hi ⊢
  split at hi
  · exact hi
  · obtain ⟨hnone, before, hpassed⟩ := hi
    exact ⟨hnone, before, hpassed.of_suffix (Operation.stream_step hx)⟩
  all_goals exact hi.office hx

/-- What changes neither the stage nor what the client knows of devices. -/
theorem same (hi : Informed o h p s) (hstage : t.stage = s.stage)
    (hchanges : t.client.changes = s.client.changes) (hcount : t.client.passed = s.client.passed) :
    Informed o h p t := by
  have htold : Told o h p s → Told o h p t := fun hs =>
    hs.congr (by rw [Session.changes, Session.changes, hstage, hchanges]) hcount
  unfold Informed at hi ⊢
  rw [hstage]
  split at hi
  · exact hchanges.trans hi
  · obtain ⟨hnone, before, hpassed⟩ := hi
    exact ⟨hchanges.trans hnone, before, hpassed.suffix, hcount.trans hpassed.count⟩
  all_goals exact htold hi

end Informed

end

end LanCensus.Service
