/-
# LanCensus.Proofs.Detect.Lasting -- how long an answer holds

A call that has its answer has left a label, which the calls after it find. But any call for the same address
that looked at the kept labels before goes on, and whatever it comes to takes the place of the kept label
(`Goes.keep`).

An answer lasts if it is the label that is kept and no call for its address is under way that can bring another
one (`Lasts`). That is carried by every step (`Lasts.next`). Where it does not hold, the calls under way can be
led to another label (`CanChange`): a search may find the device, a fetch may bring any description or none, and
time may pass. So answers that last are those that every later call repeats (`label_lasts_iff`).
-/

import LanCensus.Proofs.Detect.Sharing

namespace LanCensus.Detect

/-- **`phase.Agrees label`** — a call in this phase keeps no label any more but `label`: it has not looked at
anything yet, has its answer, or is about to have that label kept. -/
def CallPhase.Agrees (label : Option String) (phase : CallPhase) : Prop :=
  phase.IsIdle ∨ phase = .closing label

namespace Search

/-- Every search is too old some time. -/
theorem exists_not_isRecent {now : Instant} (hnow : now.IsPlain) (s : Search) :
    ∃ t, ¬ s.IsRecent (now.plus t) := by
  refine ⟨⟨(s.finished.toNanos - now.toNanos).toNat + (Span.ofSeconds 60).nanos⟩, ?_⟩
  unfold IsRecent
  rw [Instant.plus_of_isPlain hnow]
  simp only [Instant.spanTo, Instant.toNanos_ofNanos]
  omega

end Search

namespace Inquiry

variable {h k : List Occurrence} {q r : Inquiry} {x : Happening} {i n : Nat} {a : Address}
  {label other : Option String}

/-! ## Answers that last -/

/-- **`Lasts a label q`** — the label is kept for the address, and no call for the address that is under way
keeps another one. -/
structure Lasts (a : Address) (label : Option String) (q : Inquiry) : Prop where
  kept : q.labels.get? a = some label
  agree : q.Every fun _ b phase => b = a → phase.Agrees label

/-- A call that is past its look at the kept labels, and does not close, is for another address. -/
theorem Lasts.agree_moveOn {b : Address} {old phase : CallPhase} (hq : q.Lasts a label)
    (hc : q.call? i = some ⟨b, old⟩) (hold : ¬ old.Agrees label) :
    (q.moveOn i phase).Every fun _ b phase => b = a → phase.Agrees label :=
  every_moveOn hq.agree hc fun hb => absurd (hq.agree _ _ _ hc hb) hold

/-- **`Lasts.next`** — an answer that lasts does so after every step. -/
theorem Lasts.next (hq : q.Lasts a label) (hg : Goes q x r) : r.Lasts a label := by
  cases hg with
  | call => exact ⟨hq.kept, every_begin hq.agree fun _ => .inl (.inl rfl)⟩
  | remember hc => exact ⟨hq.kept, every_moveOn hq.agree hc fun _ => .inl (.inr ⟨_, rfl⟩)⟩
  | queue hc hl =>
      refine ⟨hq.kept, every_moveOn hq.agree hc fun hb => ?_⟩
      rw [hb, hq.kept] at hl
      cases hl
  | read hc | search hc | find hc | fail hc | fetch hc =>
      exact ⟨hq.kept, hq.agree_moveOn hc (by simp [CallPhase.Agrees, CallPhase.IsIdle])⟩
  | @keep i b label' hc =>
      refine ⟨?_, every_moveOn (q := { q with labels := _ }) hq.agree hc fun _ => .inl (.inr ⟨_, rfl⟩)⟩
      rw [moveOn_labels, AddressMap.get?_insert]
      split
      · next hb =>
        -- A call for this address closes with the kept label.
        have hclosing := hq.agree _ _ _ hc hb.symm
        simp only [CallPhase.Agrees, CallPhase.IsIdle, CallPhase.closing.injEq] at hclosing
        simpa using hclosing
      · exact hq.kept
  | pass => exact ⟨hq.kept, hq.agree⟩

/-- **`LastsFrom n a label q`** — moreover, the calls for the address from number `n` on answer the label, or
have not looked at anything yet. -/
structure LastsFrom (n : Nat) (a : Address) (label : Option String) (q : Inquiry) : Prop
    extends Lasts a label q where
  answers : q.Every fun j b phase => n ≤ j → b = a → phase = .arriving ∨ phase = .answered label

theorem LastsFrom.next (hq : LastsFrom n a label q) (hg : Goes q x r) : LastsFrom n a label r := by
  refine ⟨hq.toLasts.next hg, ?_⟩
  have hother {j : Nat} {b : Address} {old phase : CallPhase} (hc : q.call? j = some ⟨b, old⟩)
      (hold : old ≠ .arriving ∧ old ≠ .answered label) :
      (q.moveOn j phase).Every fun j b phase => n ≤ j → b = a → phase = .arriving ∨ phase = .answered label :=
    every_moveOn hq.answers hc fun hj hb => absurd (hq.answers _ _ _ hc hj hb) (not_or.mpr hold)
  cases hg with
  | call => exact every_begin hq.answers fun _ _ => .inl rfl
  | remember hc hl =>
      refine every_moveOn hq.answers hc fun _ hb => .inr ?_
      rw [hb, hq.kept] at hl
      cases hl
      rfl
  | queue hc hl =>
      refine every_moveOn hq.answers hc fun _ hb => ?_
      rw [hb, hq.kept] at hl
      cases hl
  | read hc | search hc | find hc | fail hc | fetch hc | keep hc => exact hother hc (by simp)
  | pass => exact hq.answers

theorem LastsFrom.course (hq : LastsFrom n a label q) (hk : Course q k r) : LastsFrom n a label r :=
  hk.keeps LastsFrom.next hq

/-- The calls that begin from now on have not looked at anything yet. -/
theorem Lasts.lastsFrom (hq : q.Lasts a label) : LastsFrom q.calls.length a label q where
  toLasts := hq
  answers j _ _ hj hlater := by
    have hlt : j < q.calls.length := (List.getElem?_eq_some_iff.mp hj).1
    omega

/-! ## Answers that may change -/

/-- Where no call searches, every search is too old some time. -/
theorem Paced.exists_stale {fs : List Search} (hp : Paced fs q) (hfree : ∀ j, ¬ q.Searches j) :
    ∃ t, Stale fs { q with now := q.now.plus t } := by
  cases fs with
  | nil => exact ⟨.zero, hfree, nofun⟩
  | cons last rest =>
      obtain ⟨t, ht⟩ := last.exists_not_isRecent hp.plain
      refine ⟨t, hfree, List.forall_mem_cons.mpr ⟨ht, fun s hs => ?_⟩⟩
      exact Search.not_isRecent_plus hp.plain (hp.older s hs) t

/-- **`CanChange a label q`** — what is under way can come to another label for the address than this one. -/
def CanChange (a : Address) (label : Option String) (q : Inquiry) : Prop :=
  ∃ k p other, Course q k p ∧ p.labels.get? a = some other ∧ other ≠ label

namespace CanChange

theorem of_kept (hl : q.labels.get? a = some other) (hne : other ≠ label) : q.CanChange a label :=
  ⟨[], q, other, .start, hl, hne⟩

/-- One step more in front changes nothing. -/
theorem of_step (hstep : q.step x = some r) (hr : r.CanChange a label) : q.CanChange a label := by
  obtain ⟨k, p, other, hk, hp⟩ := hr
  exact ⟨_, p, other, (Course.start.next hstep).append hk, hp⟩

/-- A call that closes has its label kept next. -/
theorem of_closing (hc : q.call? i = some ⟨a, .closing other⟩) (hne : other ≠ label) :
    q.CanChange a label := by
  refine of_step (step_keep hc) (of_kept ?_ hne)
  rw [moveOn_labels, AddressMap.get?_insert, if_pos rfl]

/-- Whatever a label is, some description gives another one. -/
theorem exists_document (label : Option String) :
    ∃ document, some (UpnpDesk.labelOfFetched document) ≠ label := by
  by_cases hplain : label = some plainUpnpLabel
  · let model := "<root><device><modelName>A</modelName></device></root>".toUTF8.toList
    have hmodel : UpnpDesk.labelOfFetched (some model) = "A" := by decide +kernel
    refine ⟨some model, ?_⟩
    rw [hmodel, hplain]
    decide
  · exact ⟨none, Ne.symm hplain⟩

/-- A call that fetches may get any description. -/
theorem of_fetching {location : List Char} (hc : q.call? i = some ⟨a, .fetching location⟩) :
    q.CanChange a label := by
  obtain ⟨document, hne⟩ := exists_document label
  exact of_step (step_fetch hc document) (of_closing (call?_moveOn_self hc _) hne)

/-- Responders of which one is the device. -/
def foundAt (a : Address) : Responders := .insert .empty a []

theorem get?_foundAt (a : Address) : (foundAt a).get? a = some [] := by
  rw [foundAt, AddressMap.get?_insert, if_pos rfl]

/-- A call that searches may find its device. -/
theorem of_searching (hc : q.call? i = some ⟨a, .searching⟩) : q.CanChange a label := by
  have hstep := step_find hc (foundAt a)
  rw [get?_foundAt] at hstep
  exact of_step hstep (of_fetching (call?_moveOn_self (q := { q with search := _ }) hc _))

/-- A call that waits reads what another one finds, or searches when the kept search is too old. -/
theorem of_waiting {fs : List Search} (hp : Paced fs q) (hc : q.call? i = some ⟨a, .waiting⟩) :
    q.CanChange a label := by
  by_cases hfree : ∀ j, ¬ q.Searches j
  · obtain ⟨t, hstale⟩ := hp.exists_stale hfree
    have hpassed : Paced fs { q with now := q.now.plus t } := hp.next Goes.pass.bearing
    obtain ⟨r, hturn, hr⟩ := (hpassed.searchesAgain hstale).waiting i a hc
    exact of_step (x := .pass t) rfl (of_step hturn (of_searching hr))
  · obtain ⟨j, hj⟩ := not_forall_not.mp hfree
    obtain ⟨b, hb⟩ := exists_call?_of_phase? hj
    have hne : j ≠ i := by
      rintro rfl
      rw [hc] at hb
      cases hb
    have hrecent : (Search.mk q.now (foundAt a)).IsRecent q.now := by
      simp [Search.IsRecent, Instant.spanTo, Span.ofSeconds, nanosPerSecond]
    obtain ⟨-, hturns⟩ := hp.reads_of_find hb .start hrecent
    obtain ⟨r, hturn, hr⟩ := hturns.waiting i a ((call?_moveOn_of_ne hne _).trans hc)
    rw [get?_foundAt] at hr
    exact of_step (step_find hb (foundAt a)) (of_step hturn (of_fetching hr))

/-- **`CanChange.of_not_agrees`** — every call for the address that does not agree can bring another label. -/
theorem of_not_agrees {fs : List Search} {phase : CallPhase} (hp : Paced fs q)
    (hc : q.call? i = some ⟨a, phase⟩) (hphase : ¬ phase.Agrees label) : q.CanChange a label := by
  rw [CallPhase.Agrees, not_or] at hphase
  cases phase with
  | arriving => exact absurd (.inl rfl) hphase.1
  | waiting => exact of_waiting hp hc
  | searching => exact of_searching hc
  | fetching location => exact of_fetching hc
  | closing other => exact of_closing hc fun h => hphase.2 (h ▸ rfl)
  | answered other => exact absurd (.inr ⟨other, rfl⟩) hphase.1

/-- A call that begins after the label has changed answers another one. -/
theorem exists_answered (hq : q.CanChange a label) : ∃ k p j later, Course q k p ∧ q.calls.length ≤ j ∧
    p.call? j = some ⟨a, .answered later⟩ ∧ later ≠ label := by
  obtain ⟨k, p, other, hk, hl, hne⟩ := hq
  have hnew := call?_begin_self p a
  have hstep := step_remember hnew hl
  have hcourse := (hk.next (x := .call a) rfl).next hstep
  exact ⟨_, _, p.calls.length, other, hcourse, hk.length_calls_le, call?_moveOn_self hnew _, hne⟩

end CanChange

/-! ## The whole -/

/-- **`label_lasts_iff`** — whatever calls begin, whenever each goes on, and whatever its search and its fetch
come to. Once a call has its answer, every call for its address that begins later answers the same exactly if
that label is kept and no call for the address that is under way can bring another one. -/
theorem label_lasts_iff {now : Instant} (hnow : now.IsPlain) (hq : Course (begun now) h q)
    (hi : q.call? i = some ⟨a, .answered label⟩) :
    (∀ k p, Course q k p → ∀ j later, q.calls.length ≤ j → p.call? j = some ⟨a, .answered later⟩ →
      later = label) ↔ q.Lasts a label := by
  constructor
  · intro hlasts
    have hstable : ¬ q.CanChange a label := fun hchange => by
      obtain ⟨k, p, j, later, hk, hj, hp, hne⟩ := hchange.exists_answered
      exact hne (hlasts k p hk j later hj hp)
    have hpaced : Paced (found h ++ []) q := (Paced.begun hnow).course hq
    obtain ⟨kept, hkept⟩ := Option.isSome_iff_exists.mp ((Remembers.begun now).course hq i a _ hi label rfl)
    have heq : kept = label := Classical.byContradiction fun hne => hstable (.of_kept hkept hne)
    refine ⟨heq ▸ hkept, fun j b phase hj hb => ?_⟩
    subst hb
    exact Classical.byContradiction fun hphase => hstable (.of_not_agrees hpaced hj hphase)
  · intro hlasts k p hk j later hj hp
    rcases (hlasts.lastsFrom.course hk).answers j a _ hp hj rfl with harriving | hanswered
    · cases harriving
    · cases hanswered
      rfl

/-- The calls for the other two addresses cannot change the first answer. -/
theorem threeCalls_label_lasts :
    (⟨50, 0⟩ : Instant).IsPlain ∧ ∃ q, Course (begun ⟨50, 0⟩) ((begun ⟨50, 0⟩).record threeCalls) q ∧
      q.call? 0 = some ⟨⟨10, 0, 0, 7⟩, .answered (some "UPnP Device")⟩ ∧
      ∀ k p, Course q k p → ∀ j later, q.calls.length ≤ j →
        p.call? j = some ⟨⟨10, 0, 0, 7⟩, .answered later⟩ → later = some "UPnP Device" := by
  have hplain : (⟨50, 0⟩ : Instant).IsPlain := by
    show 0 < nanosPerSecond
    decide
  have hend : ((begun ⟨50, 0⟩).replay threeCalls).map (fun q => (q.calls, q.labels.get? ⟨10, 0, 0, 7⟩)) = some
      ([⟨⟨10, 0, 0, 7⟩, .answered (some "UPnP Device")⟩, ⟨⟨10, 0, 0, 8⟩, .searching⟩,
        ⟨⟨10, 0, 0, 9⟩, .waiting⟩], some (some "UPnP Device")) := by decide +kernel
  obtain ⟨q, hq, hqend⟩ := Option.map_eq_some_iff.mp hend
  obtain ⟨hcalls, hkept⟩ := Prod.mk.inj hqend
  have hanswered : q.call? 0 = some ⟨⟨10, 0, 0, 7⟩, .answered (some "UPnP Device")⟩ := by
    rw [UpnpDesk.call?, hcalls]
    rfl
  have hlasts : q.Lasts ⟨10, 0, 0, 7⟩ (some "UPnP Device") := by
    refine ⟨hkept, fun j b phase hj hb => ?_⟩
    have hmem : UpnpCall.mk b phase ∈ q.calls := List.mem_of_getElem? hj
    rw [hcalls, hb] at hmem
    have hphase : phase = .answered (some "UPnP Device") := by simpa using hmem
    exact .inl (.inr ⟨_, hphase⟩)
  have hcourse := course_of_replay hq
  exact ⟨hplain, q, hcourse, hanswered, (label_lasts_iff hplain hcourse hanswered).mpr hlasts⟩

/-- Two calls for one address fetch at once. The first one gets a description and answers. -/
def twoFetches : List Happening :=
  [.call ⟨10, 0, 0, 7⟩, .consult 0, .call ⟨10, 0, 0, 7⟩, .consult 1, .takeTurn 0, .pass (.ofSeconds 3),
   .endSearch 0 (some (.insert .empty ⟨10, 0, 0, 7⟩ "http://10.0.0.7/".toList)), .takeTurn 1,
   .endFetch 0 (some "<root><device><modelName>A</modelName></device></root>".toUTF8.toList), .keep 0]

/-- The other one fetches in vain, and its label takes the place of the first one. Then a third call begins. -/
def lateFetch : List Happening := [.endFetch 1 none, .keep 1, .call ⟨10, 0, 0, 7⟩, .consult 2]

/-- The call that begins after the first answer gives another one. -/
theorem label_replaced :
    ∃ h k q p, Course (begun ⟨50, 0⟩) h q ∧ Course q k p ∧ q.calls.length ≤ 2 ∧
      q.call? 0 = some ⟨⟨10, 0, 0, 7⟩, .answered (some "A")⟩ ∧
      p.call? 2 = some ⟨⟨10, 0, 0, 7⟩, .answered (some "UPnP Device")⟩ := by
  have hend : ((begun ⟨50, 0⟩).replay twoFetches).bind (fun q =>
      (q.replay lateFetch).map fun p => (q.calls.length, q.call? 0, p.call? 2)) = some
      (2, some ⟨⟨10, 0, 0, 7⟩, .answered (some "A")⟩,
        some ⟨⟨10, 0, 0, 7⟩, .answered (some "UPnP Device")⟩) := by decide +kernel
  obtain ⟨q, hq, hrest⟩ := Option.bind_eq_some_iff.mp hend
  obtain ⟨p, hp, hpend⟩ := Option.map_eq_some_iff.mp hrest
  simp only [Prod.mk.injEq] at hpend
  obtain ⟨hlength, hfirst, hlate⟩ := hpend
  exact ⟨_, _, q, p, course_of_replay hq, course_of_replay hp, Nat.le_of_eq hlength, hfirst, hlate⟩

end Inquiry

end LanCensus.Detect
