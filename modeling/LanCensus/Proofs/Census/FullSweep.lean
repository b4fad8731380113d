/-
# LanCensus.Proofs.Census.FullSweep -- what a full sweep leaves

The probes of a sweep end in any order, and each writes its result into the inventory when it ends.
Still the inventory after the sweep does not depend on the order: what is left of a record is settled
by its address, by what was known of it, and by how the probes of the address end (`sweptRecord`),
except for the time at which a device was seen last.

Halfway through a sweep a record is the old one marked offline, or it is settled already; the former
only as long as a probe of the address is under way or the sweep has not come to it (`Halfway`). Every
turn keeps this. `full_sweep` draws the conclusion, and says as well that the sweep ends, that it
dispatches its itinerary and nothing else, and that it announced as many addresses.
-/

import LanCensus.Proofs.Census.Muted
import LanCensus.Proofs.Census.Progress

namespace LanCensus

/-! ## Records after a full sweep -/

/-- The record of a host that answered, if `known` was its record before and it was seen last at
`t`. -/
def Finding.record (f : Finding) (a : Address) (known : Option Device) (t : Instant) : Device where
  address := a
  name := f.name.getD (Device.provisionalName a)
  kind := f.label.getD unknown
  mac :=
    let mac := f.mac.getD unknown
    if mac ≠ "" ∧ mac ≠ unknown then mac else (known.map Device.mac).getD mac
  online := true
  lastSeen := t
  responseTime := f.responseTime

/-- What is left of a record if every probe of its address ends like this. -/
def Outcome.leaves (o : Outcome) (a : Address) (known : Option Device) (t : Instant) :
    Option Device :=
  match o with
  | .found f => some (f.record a known t)
  | .missed | .crashed => known.map Device.offline

/-- **`sweptRecord way outcome a known t`** — the record of the address `a` after a full sweep of the
addresses `way`, if it was `known` before. -/
def sweptRecord (way : List Address) (outcome : Address → Outcome) (a : Address)
    (known : Option Device) (t : Instant) : Option Device :=
  if a ∈ way then (outcome a).leaves a known t else known.map Device.offline

theorem Device.knowsMac_iff (d : Device) : d.knowsMac = true ↔ d.mac ≠ "" ∧ d.mac ≠ unknown := by
  simp [knowsMac]

namespace Inventory

variable {r : Inventory} {f : Finding} {a : Address} {known : Option Device} {t : Instant}

theorem merged_of_unknown {d : Device} (h : r.find? d.address = none) : r.merged d = d := by
  rw [merged, h]

theorem merged_of_known {d k : Device} (h : r.find? d.address = some k) : r.merged d = k.merge d := by
  rw [merged, h]

/-- The host answers, and its record is offline since the sweep set out. -/
theorem merged_of_offline (hkey : ∀ d, known = some d → d.address = a)
    (hr : r.find? a = known.map Device.offline) (now : Instant) :
    ∃ t, r.merged (f.device a now) = f.record a known t := by
  cases known with
  | none =>
      refine ⟨now, ?_⟩
      rw [merged_of_unknown hr]
      simp [Finding.record, Finding.device, Device.answering, Device.fresh]
  | some d =>
      refine ⟨d.lastSeen.later now, ?_⟩
      have hd := hkey d rfl
      rw [merged_of_known hr, Device.merge]
      simp only [Device.knowsMac_iff]
      simp [Finding.record, Finding.device, Device.answering, Device.fresh, Device.offline, hd]

/-- The host has answered before in the same sweep. -/
theorem merged_of_record (hr : r.find? a = some (f.record a known t)) (now : Instant) :
    ∃ t', r.merged (f.device a now) = f.record a known t' := by
  rw [merged_of_known hr]
  refine ⟨t.later now, ?_⟩
  simp only [Device.merge, Device.knowsMac_iff]
  simp only [Finding.record, Finding.device, Device.answering, Device.fresh, if_true]
  split <;> rfl

end Inventory

namespace Records

variable (R : Records) {a b : Address} (now : Instant) (o : Outcome)

/-- The end of a probe changes no record but that of its address. -/
theorem find?_settle_of_ne (h : a ≠ b) :
    (R.settle b now o).inventory.find? a = R.inventory.find? a := by
  cases o with
  | missed =>
      cases hk : R.inventory.find? b with
      | some known =>
          rw [R.settle_missed_of_known now hk]
          exact (R.inventory.find?_offline b a).trans (if_neg h)
      | none => rw [R.settle_missed_of_unknown now hk]
  | found f => exact (R.inventory.find?_absorb _ a).trans (if_neg h)
  | crashed => rfl

theorem find?_settle_missed :
    (R.settle a now .missed).inventory.find? a = (R.inventory.find? a).map Device.offline := by
  cases hk : R.inventory.find? a with
  | some known =>
      rw [R.settle_missed_of_known now hk]
      refine (R.inventory.find?_offline a a).trans ?_
      rw [if_pos rfl, hk]
  | none =>
      rw [R.settle_missed_of_unknown now hk]
      exact hk

theorem find?_settle_found (f : Finding) :
    (R.settle a now (.found f)).inventory.find? a = some (R.inventory.merged (f.device a now)) :=
  (R.inventory.find?_absorb _ a).trans (if_pos rfl)

end Records

/-! ## Halfway through a sweep -/

/-- **`Halfway outcome known a sent ps o`** — the sweep has dispatched the addresses `sent`, the
probes `ps` of it are under way, and the record of `a`, once `known`, is `o` now. -/
inductive Halfway (outcome : Address → Outcome) (known : Option Device) (a : Address)
    (sent : List Address) (ps : List Probe) : Option Device → Prop
  | waits : (∀ f, outcome a = .found f → a ∈ sent → ∃ p ∈ ps, p.address = a) →
      Halfway outcome known a sent ps (known.map Device.offline)
  | settled {f : Finding} {t : Instant} : outcome a = .found f → a ∈ sent →
      Halfway outcome known a sent ps (some (f.record a known t))

namespace Halfway

variable {outcome : Address → Outcome} {known : Option Device} {a : Address}
  {sent new : List Address} {ps ps' : List Probe} {o : Option Device}

/-- More probes come under way, and none ends. -/
theorem keep (h : Halfway outcome known a sent ps o)
    (hps : ∀ q ∈ ps, ∃ p ∈ ps', p.address = q.address)
    (hnew : a ∈ new → ∃ p ∈ ps', p.address = a) :
    Halfway outcome known a (sent ++ new) ps' o := by
  cases h with
  | waits hw =>
      refine .waits fun f hf hm => ?_
      rcases List.mem_append.mp hm with hm | hm
      · obtain ⟨q, hq, rfl⟩ := hw f hf hm
        exact hps q hq
      · exact hnew hm
  | settled hf hm => exact .settled hf (List.mem_append_left _ hm)

/-- A probe of another address ends. -/
theorem drop (h : Halfway outcome known a sent ps o)
    (hps : ∀ q ∈ ps, q.address = a → q ∈ ps') : Halfway outcome known a sent ps' o := by
  cases h with
  | waits hw =>
      refine .waits fun f hf hm => ?_
      obtain ⟨q, hq, hqa⟩ := hw f hf hm
      exact ⟨q, hps q hq hqa, hqa⟩
  | settled hf hm => exact .settled hf hm

/-- **`Halfway.settle`** — a probe of the address ends. -/
theorem settle {R : Records} (h : Halfway outcome known a sent ps (R.inventory.find? a))
    (hkey : ∀ d, known = some d → d.address = a) (hm : a ∈ sent) (now : Instant) :
    Halfway outcome known a sent ps' ((R.settle a now (outcome a)).inventory.find? a) := by
  generalize hr : R.inventory.find? a = o at h
  -- The last probe of the address may have ended, so nothing may wait for it.
  have hnone : ∀ {x}, (∀ f, x = Outcome.found f → False) → x = outcome a →
      ∀ f, outcome a = .found f → a ∈ sent → ∃ p ∈ ps', p.address = a :=
    fun hx he f hf _ => (hx f (he.trans hf)).elim
  cases h with
  | waits hw =>
      cases ho : outcome a with
      | missed =>
          rw [R.find?_settle_missed, hr, Option.map_map]
          exact .waits (hnone (fun _ h => by cases h) ho.symm)
      | crashed =>
          rw [show (R.settle a now .crashed).inventory.find? a = known.map Device.offline from hr]
          exact .waits (hnone (fun _ h => by cases h) ho.symm)
      | found f =>
          obtain ⟨t, ht⟩ := Inventory.merged_of_offline (f := f) hkey hr now
          rw [R.find?_settle_found, ht]
          exact .settled ho hm
  | @settled f t hf _ =>
      obtain ⟨t', ht⟩ := Inventory.merged_of_record hr now
      rw [hf, R.find?_settle_found, ht]
      exact .settled hf hm

/-- When all is dispatched and nothing is under way, the record is settled. -/
theorem swept (h : Halfway outcome known a sent [] o) :
    ∃ t, o = sweptRecord sent outcome a known t := by
  unfold sweptRecord
  cases h with
  | waits hw =>
      refine ⟨⟨0, 0⟩, ?_⟩
      by_cases hm : a ∈ sent
      · rw [if_pos hm]
        cases ho : outcome a with
        | found f =>
            obtain ⟨p, hp, -⟩ := hw f ho hm
            cases hp
        | missed | crashed => rfl
      · rw [if_neg hm]
  | @settled f t hf hm =>
      refine ⟨t, ?_⟩
      rw [if_pos hm, hf]
      rfl

end Halfway

/-! ## From turn to turn -/

/-- The addresses that come under way with a turn are those of probes. -/
theorem Step.exists_of_launched {x : Step} {id : Nat} {a : Address} (h : a ∈ x.launched id) :
    ∃ p ∈ x.after.probes, p.address = a := by
  obtain ⟨p, hp, he⟩ := List.mem_map.mp h
  exact ⟨p, List.mem_of_mem_filter hp, he⟩

/-- **`HalfSwept outcome r₀ sent ps r s`** — the sweep `s` has not failed, and if it has ended it has no
probes. As long as it waits for its subnets the inventory `r` is still `r₀`; afterwards every record is
halfway. -/
structure HalfSwept (outcome : Address → Outcome) (r₀ : Inventory) (sent : List Address)
    (ps : List Probe) (r : Inventory) (s : Sweep) : Prop where
  sane : s.phase ≠ .crashed
  done : ∀ l, s.phase = .ended l → ps = []
  untouched : s.phase = .listing → r = r₀ ∧ sent = []
  halfway : s.phase ≠ .listing → ∀ a, Halfway outcome (r₀.find? a) a sent ps (r.find? a)
  probed : ∀ p ∈ ps, p.address ∈ sent

namespace HalfSwept

variable {outcome : Address → Outcome} {r₀ r : Inventory} {sent new : List Address}
  {ps ps' : List Probe} {s s' : Sweep}

/-- No record changes, and no probe ends. -/
theorem keep (h : HalfSwept outcome r₀ sent ps r s) (hp : s.phase ≠ .listing)
    (hp' : s'.phase ≠ .listing) (hsane : s'.phase ≠ .crashed)
    (hdone : ∀ l, s'.phase = .ended l → ps' = [])
    (hps : ∀ q ∈ ps, ∃ p ∈ ps', p.address = q.address)
    (hnew : ∀ a ∈ new, ∃ p ∈ ps', p.address = a)
    (hprobed : ∀ p ∈ ps', p.address ∈ sent ++ new) :
    HalfSwept outcome r₀ (sent ++ new) ps' r s' where
  sane := hsane
  done := hdone
  untouched he := absurd he hp'
  halfway _ a := (h.halfway hp a).keep hps (hnew a)
  probed := hprobed

/-- The sweep goes on with the probes that it has. -/
theorem stay (h : HalfSwept outcome r₀ sent ps r s) (hp : s.phase ≠ .listing)
    (hp' : s'.phase ≠ .listing) (hsane : s'.phase ≠ .crashed)
    (hdone : ∀ l, s'.phase = .ended l → ps = [])
    (hnew : ∀ a ∈ new, ∃ p ∈ ps, p.address = a) :
    HalfSwept outcome r₀ (sent ++ new) ps r s' :=
  h.keep hp hp' hsane hdone (fun q hq => ⟨q, hq, rfl⟩) hnew
    fun p hm => List.mem_append_left _ (h.probed p hm)

variable {c : Census} {t : Turn} {R : Records} {τ : Steering} {names : List String}

/-- **`HalfSwept.advance`** — every turn that keeps to the answers, and neither pauses the census nor
removes a device, leads from one such state to the next. -/
theorem advance (hh : HalfSwept outcome r₀ sent c.probes c.inventory s) (hreg : c.IsRegular)
    (hs : c.steering.sweep? s.id = some s) (hf : s.phase.inFlight = true) (h₀ : r₀.IsSound)
    (hn : Census.named names ≠ []) (hm : s.options.maxProbes.toNat ≤ Census.permitLimit)
    (hq : c.pauses = s.pauses) (hkeeps : t.Keeps (.ok names) (fun a o => o = outcome a) c)
    (hremove : t.isRemoval = false) (h : c.Advance s t ps s' R) (hτ : τ.probes = ps) :
    HalfSwept outcome r₀ (sent ++ (Step.mk c.steering t τ).launched s.id) ps R.inventory s' := by
  have hnew : ∀ a ∈ (Step.mk c.steering t τ).launched s.id, ∃ p ∈ ps, p.address = a := by
    intro a ha
    obtain ⟨p, hp, he⟩ := Step.exists_of_launched ha
    exact ⟨p, hτ ▸ hp, he⟩
  have hone : ∀ x, ps = c.probes ++ [c.probeFor s x] →
      (Step.mk c.steering t τ).launched s.id = [x.address] := fun x hx =>
    Step.launched_eq_singleton (x := ⟨c.steering, t, τ⟩) (p := c.probeFor s x) hreg.numbered
      (hτ.trans hx) rfl
  have hready : s.phase = .ready ∨ s.phase = .waiting → s.phase ≠ .listing := by
    rintro (hp | hp) <;> rw [hp] <;> simp
  have hlisting : ∀ p ∈ c.probes, s.phase ≠ .listing := by
    intro p hp he
    have hset := hreg.hasSetOut hs hf hp
    rw [he] at hset
    cases hset
  have hgoes : ∀ {qs : List Probe} l, s.phase = .ended l → qs = [] := fun l he =>
    absurd he (Sweep.Phase.ne_of_inFlight hf rfl)
  generalize (Step.mk c.steering t τ).launched s.id = new at hnew hone
  cases h with
  | aside =>
      by_cases hp : s.phase = .listing
      · obtain ⟨hr, rfl⟩ := hh.untouched hp
        have hnil := hreg.supplied.probes_of_listing hreg.orderly hs hp
        refine ⟨hh.sane, hh.done, fun _ => ⟨hr, ?_⟩, fun hne => absurd hp hne, fun p hm => ?_⟩
        · rw [List.nil_append, List.eq_nil_iff_forall_not_mem]
          intro a ha
          obtain ⟨p, hm, -⟩ := hnew a ha
          rw [show c.probes = [] from hnil] at hm
          cases hm
        · rw [show c.probes = [] from hnil] at hm
          cases hm
      · exact hh.stay hp hp hh.sane hh.done hnew
  | remove => cases hremove
  | halt _ _ hor =>
      have hnames := hkeeps
      rw [Turn.Keeps] at hnames
      rw [hnames] at hor
      exact (hor.elim hn fun hne => hne hq).elim
  | overload _ _ _ _ hlim => exact absurd hm (Nat.not_le.mpr hlim)
  | setOut hp =>
      obtain ⟨hr, rfl⟩ := hh.untouched hp
      refine ⟨by simp, fun l he => (by cases he), fun he => (by cases he), fun _ a => ?_,
        fun p hm => by cases hm⟩
      show Halfway _ _ _ _ _ (c.inventory.allOffline.find? a)
      rw [Inventory.find?_allOffline, hr]
      refine .waits fun f _ ha => ?_
      rw [List.nil_append] at ha
      exact hnew a ha
  | collapse => cases hkeeps
  | await hp | wake hp => exact hh.stay (by simp [hp]) (by simp) (by simp) (by simp) hnew
  | stop hp => exact hh.stay (hready hp) (by simp) (by simp) (by simp) hnew
  | @dispatch x rest φ hp _ _ _ hφ =>
      have hφ' : φ ≠ .listing ∧ φ ≠ .crashed ∧ ∀ l, φ ≠ .ended l := by
        rcases hφ with rfl | ⟨w, rfl⟩ <;> simp
      refine hh.keep (hready hp) hφ'.1 hφ'.2.1 (fun l he => absurd he (hφ'.2.2 l)) ?_ hnew ?_
      · intro q hq
        exact ⟨q, List.mem_append_left _ hq, rfl⟩
      · intro p hp
        rcases List.mem_append.mp hp with hp | hp
        · exact List.mem_append_left _ (hh.probed p hp)
        · obtain rfl := List.mem_singleton.mp hp
          rw [hone x rfl]
          exact List.mem_append_right _ (List.mem_singleton.mpr rfl)
  | complete hp hnil =>
      rw [hnil] at hh
      exact hh.stay (by simp [hp]) (by simp) (by simp) (fun _ _ => rfl) hnew
  | @ping p hp =>
      have hne := hlisting p hp
      refine hh.keep hne hne hh.sane hgoes (fun q hq => ?_) hnew fun q hq => ?_
      · refine ⟨_, List.mem_map_of_mem hq, ?_⟩
        split <;> rfl
      · obtain ⟨r, hr, rfl⟩ := List.mem_map.mp hq
        refine List.mem_append_left _ ?_
        split <;> exact hh.probed r hr
  | @endProbe p o b hp _ =>
      have hne := hlisting p hp
      obtain rfl : o = outcome p.address := hkeeps p (hreg.probe?_of_mem hp)
      refine ⟨hh.sane, hgoes, fun he => absurd he hne, fun _ a => ?_, fun q hq => ?_⟩
      · -- The probe is the only one that ends, so probes of other addresses stay under way.
        refine Halfway.keep ?_ (fun q hq => ⟨q, hq, rfl⟩) (hnew a)
        by_cases ha : a = p.address
        · subst ha
          refine (hh.halfway hne _).settle (R := c.records) ?_ (hh.probed p hp) c.now
          exact fun d hd => h₀.keyed _ d hd
        · rw [Records.find?_settle_of_ne _ _ _ ha]
          refine (hh.halfway hne a).drop fun q hq hqa => List.mem_filter.mpr ⟨hq, ?_⟩
          refine decide_eq_true fun hid => ha ?_
          rw [← hqa, hreg.numbered.eq_of_id hq hp hid]
      · exact List.mem_append_left _ (hh.probed q (List.mem_of_mem_filter hq))

end HalfSwept

/-! ## The announcement -/

/-- With the turn it is announced that `n` addresses are going to be probed. -/
def Deed.announces (n : Nat) (x : Deed) : Prop :=
  ∃ list : String, x.after.notices.head? =
    some (.progress .info s!"Scanning {n} addresses on {list}" x.before.now)

theorem Sweep.Options.length_itinerary (o : Options) (names : List String) :
    (o.itinerary (.ok names)).length = (Census.named names).length * o.octetCount := by
  rw [← map_address_targetsOf_named, List.length_map]
  unfold Census.targetsOf
  rw [List.length_flatMap, List.map_congr_left (g := fun _ => o.octetCount)]
  · simp
  · intro e _
    simp [octets, octetCount]

namespace Census

variable {c d : Census} {s s' : Sweep} {t : Turn} {ps : List Probe} {R : Records}
  {names : List String}

/-- A sweep that has waited for its subnets goes on waiting, fails, or is told. -/
theorem Advance.of_listing (h : c.Advance s t ps s' R) (hp : s.phase = .listing) :
    s'.phase = .listing ∨ s'.phase = .crashed ∨ ∃ answer, t = .list s.id answer := by
  have hready : ¬ (s.phase = .ready ∨ s.phase = .waiting) := by
    rw [hp]
    simp
  cases h with
  | aside | remove | ping | endProbe => exact .inl hp
  | halt | overload | setOut => exact .inr (.inr ⟨_, rfl⟩)
  | collapse => exact .inr (.inl rfl)
  | await hq | wake hq | complete hq => cases hp.symm.trans hq
  | stop hq | dispatch hq => exact absurd hq hready

/-- A sweep that sets out announces how many addresses there are. -/
theorem announces_of_setOut (hs : c.steering.sweep? s.id = some s) (hp : s.phase = .listing)
    (hn : named names ≠ []) (hq : c.pauses = s.pauses)
    (ht : c.take (.list s.id (.ok names)) = some d) :
    Deed.announces (s.options.itinerary (.ok names)).length ⟨c, .list s.id (.ok names), d⟩ := by
  have hd : d = c.listed s names := Option.some.inj (ht.symm.trans (take_list hs hp names))
  have hcomplain : (c.complainInvalid names).steering = c.steering := steering_complainInvalid c names
  have hpauses : (c.complainInvalid names).pauses = s.pauses :=
    (congrArg Steering.pauses hcomplain).trans hq
  have hnow : (c.complainInvalid names).now = c.now := congrArg Steering.now hcomplain
  refine ⟨", ".intercalate ((named names).map fun n => s!"{n.1}.0/24"), ?_⟩
  rw [hd, s.options.length_itinerary]
  show (c.listed s names).notices.head? = some (.progress .info _ c.now)
  unfold listed setOut
  simp only [List.isEmpty_iff, hn, if_false, hpauses, ne_eq, not_true]
  rw [← hnow]
  split <;> rfl

end Census

/-! ## The whole sweep -/

/-- **`IsSwept`** — the sweep, which began with the inventory `r₀`, has ended: it has dispatched the
addresses `way` one after another, it had announced as many, and every record is settled. -/
structure IsSwept (outcome : Address → Outcome) (way : List Address) (r₀ : Inventory) (id : Nat)
    (h : List Deed) (d : Census) : Prop where
  ended : ∃ l, d.steering.phase? id = some (.ended l)
  dispatched : dispatchedBy id (h.map Deed.step) = way
  announced : ∃ x ∈ h, x.announces way.length
  settled : ∀ a, ∃ t, d.inventory.find? a = sweptRecord way outcome a (r₀.find? a) t

namespace Census

theorem named_ne_nil {names : List String} (h : ∃ name ∈ names, (Subnet.parse? name).isSome) :
    named names ≠ [] := by
  obtain ⟨name, hm, hn⟩ := h
  obtain ⟨n, hn⟩ := Option.isSome_iff_exists.mp hn
  apply List.ne_nil_of_mem (a := (name, n))
  refine List.mem_filterMap.mpr ⟨name, hm, ?_⟩
  rw [hn, Option.map_some]

section

variable {b d : Census} {id : Nat} {h : List Deed} {s₀ : Sweep} {names : List String}
  {outcome : Address → Outcome}

/-- A sweep that nobody pauses, and during which nobody removes a device, is half swept until it
ends. -/
theorem Voyage.halfSwept (hv : Voyage id (.ok names) (fun a o => o = outcome a) b h d)
    (hb : b.IsRegular) (hs : b.steering.sweep? id = some s₀) (hp : s₀.phase = .listing)
    (hq : s₀.pauses = b.pauses) (hm : s₀.options.maxProbes.toNat ≤ permitLimit)
    (hn : named names ≠ []) (hsound : b.inventory.IsSound)
    (hquiet : ∀ x ∈ h, x.turn.isPause = false ∧ x.turn.isRemoval = false) {n : Nat}
    (hlength : (s₀.options.itinerary (.ok names)).length = n) :
    ∃ s, d.steering.sweep? id = some s ∧
      HalfSwept outcome b.inventory (dispatchedBy id (h.map Deed.step)) d.probes d.inventory s ∧
      (s.phase = .listing ∨ ∃ x ∈ h, x.announces n) := by
  have hQ : ∀ x ∈ h, x.turn.Keeps (.ok names) (fun a o => o = outcome a) x.before ∧
      x.turn.isPause = false ∧ x.turn.isRemoval = false := fun x hx => ⟨hv.keeps x hx, hquiet x hx⟩
  have hend := hv.story.follow (P := fun h c s => c.pauses = s₀.pauses ∧
    HalfSwept outcome b.inventory (dispatchedBy id (h.map Deed.step)) c.probes c.inventory s ∧
    (s.phase = .listing ∨ ∃ x ∈ h, x.announces n)) hb hs ⟨hq.symm, ?_, .inl hp⟩ ?_ hv.inFlight hQ
  · obtain ⟨s, hfound, -, -, -, hhalf, hsaid⟩ := hend
    exact ⟨s, hfound, hhalf, hsaid⟩
  · have hid := Steering.id_of_sweep? hs
    have hnil : b.probes = [] := hb.supplied.probes_of_listing hb.orderly (hid ▸ hs) hp
    refine ⟨by simp [hp], by simp [hp], fun _ => ⟨rfl, rfl⟩, fun hne => absurd hp hne, ?_⟩
    intro p hm
    rw [hnil] at hm
    cases hm
  · rintro h c e t s s' hreg ⟨rfl, hpauses, hoptions⟩ hfound hf ⟨hlevel, hhalf, hsaid⟩
      ⟨hkeeps, hne, hremove⟩ ht hadv
    rw [← hpauses] at hlevel
    have hnext := hhalf.advance (τ := e.steering) hreg hfound hf hsound hn (hoptions ▸ hm) hlevel
      hkeeps hremove hadv rfl
    refine ⟨by rw [pauses_of_take ht hne, hlevel, hpauses], hnext, ?_⟩
    rcases hsaid with hp | ⟨x, hx, hsaid⟩
    · -- It has waited for the subnets, so it does so still, or it has just set out.
      rcases hadv.of_listing hp with hp' | hc | ⟨answer, rfl⟩
      · exact .inl hp'
      · exact absurd hc hnext.sane
      · obtain rfl : answer = .ok names := hkeeps
        refine .inr ⟨_, List.mem_cons_self, ?_⟩
        have hsaid := announces_of_setOut hfound hp hn hlevel ht
        rwa [hoptions, hlength] at hsaid
    · exact .inr ⟨x, List.mem_cons_of_mem _ hx, hsaid⟩

/-- **`full_sweep`** — a sweep begins with options that allow no more probes at once than can be
managed, and is told at least one subnet. However its turns and those of its probes follow one another,
as long as nobody pauses the census or removes a device: the sweep takes a bounded number of turns;
until it has ended there is always one to take; and when it has ended it has dispatched its itinerary
and has left of every record what the outcomes make of it. -/
theorem full_sweep {c₀ c b d : Census} {id : Nat} {names : List String} {h : List Deed}
    {outcome : Address → Outcome} (hc : c₀.IsRestored) (hr : Reaches c₀ c)
    (hm : c.options.maxProbes.toNat ≤ permitLimit)
    (hn : ∃ name ∈ names, (Subnet.parse? name).isSome) (hbegins : c.Begins id b)
    (hv : Voyage id (.ok names) (fun a o => o = outcome a) b h d)
    (hquiet : ∀ x ∈ h, x.turn.isPause = false ∧ x.turn.isRemoval = false) :
    h.countP (·.turn.isWork) ≤ 5 * (c.options.itinerary (.ok names)).length + 4 ∧
      (d.InFlight id → d.CanGoOn (.ok names) fun a o => o = outcome a) ∧
      (¬ d.InFlight id →
        IsSwept outcome (c.options.itinerary (.ok names)) c.inventory id h d) := by
  have hreg : c.IsRegular := (IsRegular.of_isNew hc.isNew).reaches hr
  obtain ⟨hrecords, -, s₀, hs, hp, hq, ho⟩ := hbegins.listing
  have hinv : b.inventory = c.inventory := congrArg Records.inventory hrecords
  have hsound : b.inventory.IsSound := by
    rw [hinv]
    exact hr.isSound hc.isSound
  have hthorough := hbegins.thorough hreg hv (fun a => ⟨outcome a, rfl⟩) fun x hx => (hquiet x hx).1
  obtain ⟨s, hfound, hhalf, hsaid⟩ := hv.halfSwept (hreg.take hbegins.turn) hs hp hq (ho ▸ hm)
    (named_ne_nil hn) hsound hquiet (by rw [ho])
  have hphase := Steering.phase?_of_sweep? hfound
  rw [hinv] at hhalf
  refine ⟨hthorough.bounded, hthorough.goesOn, fun hover => ?_⟩
  rcases hthorough.covers hover with hcrashed | ⟨⟨l, hl⟩, hsent⟩
  · exact absurd (Option.some.inj (hphase.symm.trans hcrashed)) hhalf.sane
  · have hended : s.phase = .ended l := Option.some.inj (hphase.symm.trans hl)
    refine ⟨⟨l, hl⟩, hsent, hsaid.resolve_left (by simp [hended]), fun a => ?_⟩
    have ha := hhalf.halfway (by simp [hended]) a
    rw [hhalf.done l hended] at ha
    rw [← hsent]
    exact ha.swept

end

/-- A census for sweeps of two addresses at once. It knows one of them, and a device elsewhere. -/
def pair : Census :=
  initial ⟨0, 0⟩ { smallOptions false with maxProbes := 2, endOctet := 2 }
    (Inventory.empty.restore
      [.answering ⟨192, 168, 1, 2⟩ ⟨0, 0⟩ .zero, .answering ⟨10, 0, 0, 9⟩ ⟨0, 0⟩ .zero])

theorem pair_isRestored : pair.IsRestored :=
  ⟨⟨0, 0⟩, { smallOptions false with maxProbes := 2, endOctet := 2 },
    [.answering ⟨192, 168, 1, 2⟩ ⟨0, 0⟩ .zero, .answering ⟨10, 0, 0, 9⟩ ⟨0, 0⟩ .zero], rfl⟩

/-- The first address answers, and the probe of the second one fails. -/
def pairOutcome (a : Address) : Outcome :=
  if a.last = 1 then .found ⟨.ofMillis 7, none, some "aa:bb:cc:dd:ee:ff", some "Printer"⟩ else .crashed

/-- The second probe ends before the first one, while the sweep waits for both. -/
def pairTurns : List Turn :=
  [.list 0 (.ok ["nowhere", "192.168.1"]), .proceed 0, .proceed 0, .ping 2, .proceed 0,
    .endProbe 2 (pairOutcome ⟨192, 168, 1, 2⟩), .ping 1,
    .endProbe 1 (pairOutcome ⟨192, 168, 1, 1⟩), .proceed 0]

/-- A full sweep of the census of two addresses. -/
theorem pair_full_sweep :
    ∃ b d, (pair.requestSweep none).Begins 0 b ∧
      Voyage 0 (.ok ["nowhere", "192.168.1"]) (fun a o => o = pairOutcome a) b
        (b.chronicle pairTurns) d ∧
      IsSwept pairOutcome [⟨192, 168, 1, 1⟩, ⟨192, 168, 1, 2⟩] pair.inventory 0
        (b.chronicle pairTurns) d := by
  let c := pair.requestSweep none
  have hcheck : (c.take (.embark 0)).any (fun b => (b.replay pairTurns).any fun d =>
      decide (¬ d.InFlight 0 ∧ ∀ x ∈ b.chronicle pairTurns, x.before.InFlight 0 ∧
        x.turn.Keeps (.ok ["nowhere", "192.168.1"]) (fun a o => o = pairOutcome a) x.before ∧
        x.turn.isPause = false ∧ x.turn.isRemoval = false)) = true := by
    decide +kernel
  obtain ⟨b, hb, hcheck⟩ := (Option.any_eq_true _ _).mp hcheck
  obtain ⟨d, hd, hcheck⟩ := (Option.any_eq_true _ _).mp hcheck
  obtain ⟨hover, hdeeds⟩ := of_decide_eq_true hcheck
  have hr : Reaches pair c := .step (t := .requestSweep) .refl rfl
  have hbegins : c.Begins 0 b := by
    refine ⟨rfl, fun p hp => ?_, hb⟩
    cases hp
    rfl
  have hv : Voyage 0 (.ok ["nowhere", "192.168.1"]) (fun a o => o = pairOutcome a) b
      (b.chronicle pairTurns) d :=
    ⟨story_of_replay hd, fun x hx => (hdeeds x hx).1, fun x hx => (hdeeds x hx).2.1⟩
  have hsweep := full_sweep pair_isRestored hr (by decide) (by decide +kernel) hbegins hv
    fun x hx => (hdeeds x hx).2.2
  exact ⟨b, d, hbegins, hv, hsweep.2.2 hover⟩

end Census

end LanCensus
