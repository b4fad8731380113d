/-
# LanCensus.Proofs.Census.Fruitless -- sweeps without subnets, and lists with errors

The answer to the question for subnets decides what becomes of a sweep. An error, an empty list and a
list in which no name is that of a subnet leave it nothing to do: it ends where it stands, and all that
remains of it are its errors, between the announcements of its beginning and its end (`IsFruitless`).
From a list with some names of subnets it takes these. The others are complained about, each once and
no matter what else is announced meanwhile (`Complains`), and the sweep covers the addresses of the
rest if it can manage its probes, and only then (`Voyage.sifts`).
-/

import LanCensus.Proofs.Census.FullSweep
import LanCensus.Proofs.Census.Overload
import LanCensus.Proofs.Census.Remarks

namespace LanCensus

/-- Whether nobody but a sweep and the clock has a part in the turn. -/
def Turn.isSecluded : Turn → Bool
  | .pass _ => true
  | t => t.isWork

/-- Whether the owner asks about an address with the turn. -/
def Turn.isLookUp : Turn → Bool
  | .lookUp _ => true
  | _ => false

theorem Turn.faults_eq_nil {t : Turn} (hl : t.isLookUp = false)
    (ht : ∀ id answer, t ≠ .list id answer) : t.faults = [] := by
  cases t with
  | list id answer => exact absurd rfl (ht id answer)
  | lookUp => cases hl
  | _ => rfl

/-- The end of a sweep changes no other one. -/
theorem Steering.sweep?_conclude_of_ne {σ : Steering} {s : Sweep} {id : Nat} (hne : id ≠ s.id)
    (l : List Device) : (σ.conclude s l).sweep? id = σ.sweep? id :=
  sweep?_put_of_ne (s := { s with phase := .ended l }) hne

namespace Census

variable {c e : Census} {s : Sweep} {answer : Except SubnetError (List String)}

/-! ## A sweep without subnets -/

/-- **`IsFruitless c id answer d`** — between `c` and `d` the sweep has begun and ended without setting
out. The errors that the answer gives rise to were announced; the census is disarmed if it was armed
for one sweep; and nothing else has changed. -/
structure IsFruitless (c : Census) (id : Nat) (answer : Except SubnetError (List String))
    (d : Census) : Prop where
  ended : d.steering.phase? id = some (.ended c.inventory.toList)
  others : ∀ i, i ≠ id → d.steering.sweep? i = c.steering.sweep? i
  rest : d = { c with
    now := d.now
    armed := c.armed && c.options.continuous
    sweeping := false
    sweeps := d.sweeps
    notices := d.notices }
  notices : ∃ t message, failure? answer = some message ∧
    d.notices = .sweeping false :: .progress .error message t ::
      ((complaints answer).reverse.map fun m => .progress .error m t) ++ .sweeping true :: c.notices

/-- A sweep that meets no other one announces that it begins, and asks for the subnets. -/
theorem exists_of_embark {b : Census} {id : Nat} (hidle : c.sweeping = false)
    (ht : c.take (.embark id) = some b) :
    ∃ s p, c.steering.sweep? s.id = some s ∧ s.id = id ∧
      b = (({ c with sweeping := true } : Census).announce (.sweeping true)).putSweep
        { s with phase := .listing, pauses := p, options := c.options } := by
  obtain ⟨s, hs, hb⟩ := Option.bind_eq_some_iff.mp ht
  have hid : s.id = id := Steering.id_of_sweep? (σ := c.steering) hs
  subst hid
  split at hb
  · next p hp =>
    cases hb
    refine ⟨s, p.getD c.pauses, hs, rfl, ?_⟩
    unfold embark
    rw [hp]
    simp only [hidle, Bool.false_eq_true, if_false]
    rfl
  · cases hb

/-- **`eq_of_noSubnets`** — a sweep that is told of no subnet complains, says that it failed, and
ends. -/
theorem eq_of_noSubnets (hs : c.steering.sweep? s.id = some s) (hno : NoSubnets answer)
    (ht : c.take (.list s.id answer) = some e) :
    ∃ message, failure? answer = some message ∧
      e = (({ c with
        notices := ((complaints answer).reverse.map fun m => .progress .error m c.now) ++
          c.notices } : Census).complain message).finish s := by
  cases answer with
  | error x =>
      obtain ⟨u, hu, hid, -, rfl⟩ := settleListing_eq_some ht
      rw [hid] at hu
      obtain rfl := Option.some.inj (hs.symm.trans hu)
      exact ⟨_, rfl, rfl⟩
  | ok names =>
      obtain ⟨u, hu, hid, -, rfl⟩ := settleListing_eq_some ht
      rw [hid] at hu
      obtain rfl := Option.some.inj (hs.symm.trans hu)
      have hnil : named names = [] := hno
      refine ⟨_, if_pos hnil, ?_⟩
      unfold listed
      simp only [hnil, List.isEmpty_nil, if_true]
      rw [complainInvalid_eq]
      rfl

/-- The turn that answers a sweep without subnets leaves it fruitless. -/
theorem IsFruitless.of_turns {b x d : Census} {id : Nat} (hidle : c.sweeping = false)
    (hembark : c.take (.embark id) = some b) (hx : x = { b with now := x.now })
    (hno : NoSubnets answer) (ht : x.take (.list id answer) = some d) :
    IsFruitless c id answer d := by
  obtain ⟨s, p, hs, rfl, rfl⟩ := exists_of_embark hidle hembark
  let s₁ : Sweep := { s with phase := .listing, pauses := p, options := c.options }
  have hbegun : ∀ i, x.steering.sweep? i = (c.steering.put s₁).sweep? i := by
    intro i
    rw [hx]
    rfl
  have hput : (c.steering.put s₁).sweep? s.id = some s₁ := Steering.sweep?_put_self hs rfl
  have hs₁ : x.steering.sweep? s₁.id = some s₁ := (hbegun s.id).trans hput
  obtain ⟨message, hmessage, rfl⟩ := eq_of_noSubnets hs₁ hno ht
  refine ⟨?_, fun i hi => ?_, ?_, x.now, message, hmessage, ?_⟩
  · refine (phase?_conclude (σ := x.steering) hs₁ _).trans ?_
    rw [hx]
    rfl
  · refine (Steering.sweep?_conclude_of_ne (σ := x.steering) (s := s₁) hi _).trans ?_
    exact (hbegun i).trans (Steering.sweep?_put_of_ne hi)
  · rw [hx]
    rfl
  · rw [hx]
    rfl

/-- **`Aborts c id answer h d`** — with the history `h` since the sweep began, the sweep has not taken
more turns than four and can go on until it is over, and then it has been fruitless. -/
structure Aborts (c : Census) (id : Nat) (answer : Except SubnetError (List String))
    (h : List Deed) (d : Census) : Prop where
  bounded : h.countP (·.turn.isWork) ≤ 4
  goesOn : d.InFlight id → d.CanGoOn answer fun _ _ => True
  fruitless : ¬ d.InFlight id → IsFruitless c id answer d

/-- **`Voyage.aborts`** — a sweep that is told of no subnet, with nobody but the clock beside it, is
fruitless. -/
theorem Voyage.aborts {b d : Census} {id : Nat} {h : List Deed} (hreg : c.IsRegular)
    (hidle : c.sweeping = false) (hembark : c.take (.embark id) = some b)
    (hv : Voyage id answer (fun _ _ => True) b h d) (hno : NoSubnets answer)
    (halone : ∀ x ∈ h, x.turn.isSecluded = true) : Aborts c id answer h d := by
  have hb : b.IsRegular := hreg.take hembark
  obtain ⟨-, -, s₀, -, hs, hp, -, -⟩ := listing_of_embark hidle hembark
  obtain ⟨hbounded, hgoes⟩ := hv.ends hb hs hp fun _ => ⟨.missed, trivial⟩
  rw [Sweep.Options.itinerary_of_noSubnets _ hno] at hbounded
  -- The sweep waits for its answer, and only the clock has moved on, or it has been fruitless.
  have hend := hv.story.follow
    (P := fun _ e s => (s.phase = .listing ∧ e = { b with now := e.now }) ∨
      IsFruitless c id answer e) hb hs (.inl ⟨hp, rfl⟩) ?_ hv.inFlight
      fun x hx => And.intro (hv.keeps x hx) (halone x hx)
  · obtain ⟨s, hfound, -, -, hor⟩ := hend
    refine ⟨hbounded, hgoes, fun hover => hor.resolve_left fun ⟨hlisting, _⟩ => hover ?_⟩
    exact ⟨_, Steering.phase?_of_sweep? hfound, by rw [hlisting]; rfl⟩
  · rintro h x e t s s' hreg ⟨rfl, -, -⟩ hfound hf hor ⟨hkeeps, hsecluded⟩ ht hadv
    have hwaits : s.phase = .listing ∧ x = { b with now := x.now } := by
      refine hor.resolve_right fun hfruitless => ?_
      have hended := (Steering.phase?_of_sweep? hfound).symm.trans hfruitless.ended
      rw [Option.some.inj hended] at hf
      cases hf
    obtain ⟨hlisting, hx⟩ := hwaits
    have hnil : x.probes = [] := hreg.supplied.probes_of_listing hreg.orderly hfound hlisting
    have hready : ¬ (s.phase = .ready ∨ s.phase = .waiting) := by simp [hlisting]
    generalize e.probes = ps, e.records = R at hadv
    cases hadv with
    | aside hwork =>
        cases t with
        | pass n =>
            simp only [take] at ht
            split at ht
            · cases ht
              refine .inl ⟨hlisting, ?_⟩
              rw [hx]
            · cases ht
        | _ => cases hsecluded.symm.trans hwork
    | remove => cases hsecluded
    | halt =>
        obtain rfl := hkeeps
        exact .inr (.of_turns hidle hembark hx hno ht)
    | overload _ _ hn | setOut _ _ hn =>
        obtain rfl := hkeeps
        exact absurd hno hn
    | collapse => cases hkeeps
    | await hq | wake hq | complete hq => cases hlisting.symm.trans hq
    | stop hq | dispatch hq => exact absurd hq hready
    | ping hq | endProbe hq =>
        rw [hnil] at hq
        cases hq

end Census

/-! ## A list with some subnets -/

/-- No error is announced with the turn, unless its owner asks about an address. -/
def Deed.isFaultless (x : Deed) : Prop :=
  x.turn.isLookUp = false → x.after.faults = x.before.faults

/-- **`Complains names h`** — with one turn of the history each of the names that name no subnet was
complained about, and apart from lookups no other turn announced an error. -/
def Complains (names : List String) (h : List Deed) : Prop :=
  ∃ later x earlier, h = later ++ x :: earlier ∧
    x.after.faults = (complaints (.ok names)).reverse ++ x.before.faults ∧
    ∀ y ∈ later ++ earlier, y.isFaultless

theorem Complains.cons {names : List String} {h : List Deed} (hc : Complains names h) {y : Deed}
    (hy : y.isFaultless) : Complains names (y :: h) := by
  obtain ⟨later, x, earlier, rfl, hx, hrest⟩ := hc
  exact ⟨y :: later, x, earlier, rfl, hx, List.forall_mem_cons.mpr ⟨hy, hrest⟩⟩

namespace Census

section

variable {c e : Census} {s s' : Sweep} {t : Turn} {ps : List Probe} {R : Records}
  {names : List String}

/-- Only a sweep that waits for its subnets is told of them, and then it waits no longer. -/
theorem Advance.listing_of_list {id : Nat} {answer : Except SubnetError (List String)}
    (h : c.Advance s (.list id answer) ps s' R) :
    id = s.id ∧ s.phase = .listing ∧ s'.phase ≠ .listing := by
  cases h with
  | aside hno => cases hno
  | halt hp | overload hp | setOut hp => exact ⟨rfl, hp, by simp⟩

theorem faults_of_list (hn : named names ≠ []) (ht : c.take (.list s.id (.ok names)) = some e) :
    e.faults = (complaints (.ok names)).reverse ++ c.faults := by
  have hnone : failure? (.ok names) = none := failure?_eq_none_iff.mpr hn
  rw [faults_take ht, Turn.faults, hnone]
  rfl

end

/-- **`Sifts c id names h d`** — with the history `h` since the sweep began, the sweep has not taken
more turns than its addresses give it and can go on until it is over. Once it has been told the names
it has complained about those of no subnet. When it is over it has covered the addresses of the others
if it can manage its probes, and only then. -/
structure Sifts (c : Census) (id : Nat) (names : List String) (h : List Deed) (d : Census) :
    Prop where
  bounded : h.countP (·.turn.isWork) ≤ 5 * (c.options.itinerary (.ok names)).length + 4
  goesOn : d.InFlight id → d.CanGoOn (.ok names) fun _ _ => True
  complains : d.steering.phase? id ≠ some .listing → Complains names h
  covers : ¬ d.InFlight id →
    (((∃ l, d.steering.phase? id = some (.ended l)) ∧
        dispatchedBy id (h.map Deed.step) = c.options.itinerary (.ok names)) ↔
      c.options.maxProbes.toNat ≤ permitLimit)

section

variable {c b d : Census} {id : Nat} {h : List Deed} {s₀ : Sweep} {names : List String}
  {ok : Address → Outcome → Prop}

/-- A sweep that nobody pauses has been told the names, has complained about some of them and has set
out, unless it waits for them still. -/
theorem Voyage.complains (hv : Voyage id (.ok names) ok b h d) (hb : b.IsRegular)
    (hs : b.steering.sweep? id = some s₀) (hp : s₀.phase = .listing) (hq : b.pauses = s₀.pauses)
    (hn : named names ≠ []) (hquiet : ∀ x ∈ h, x.turn.isPause = false) :
    ∃ s, d.steering.sweep? id = some s ∧
      (s.phase = .listing ∨ Complains names h ∧ ∃ x ∈ h, x.setsOut) := by
  have hend := hv.story.follow
    (P := fun h e s => e.pauses = s₀.pauses ∧
      ((s.phase = .listing ∧ ∀ x ∈ h, x.isFaultless) ∨
        (s.phase ≠ .listing ∧ Complains names h ∧ ∃ x ∈ h, x.setsOut))) hb hs
      ⟨hq, .inl ⟨hp, fun x hx => by cases hx⟩⟩ ?_ hv.inFlight
      fun x hx => And.intro (hv.keeps x hx) (hquiet x hx)
  · obtain ⟨s, hfound, -, -, -, hor⟩ := hend
    exact ⟨s, hfound, hor.imp And.left And.right⟩
  · rintro h x e t s s' hreg ⟨rfl, hpauses, -⟩ hfound hf ⟨hlevel, hor⟩ ⟨hkeeps, hpause⟩ ht hadv
    refine ⟨(pauses_of_take ht hpause).trans hlevel, ?_⟩
    by_cases hlist : ∃ i answer, t = .list i answer
    · -- The sweep is told the names: it complains now, and has not done so before.
      obtain ⟨i, answer, rfl⟩ := hlist
      obtain ⟨rfl, hp, hp'⟩ := hadv.listing_of_list
      obtain rfl : answer = .ok names := hkeeps
      obtain ⟨-, hbefore⟩ := hor.resolve_right fun hx => hx.1 hp
      refine .inr ⟨hp', ⟨[], _, h, rfl, faults_of_list hn ht, hbefore⟩, _, List.mem_cons_self, ?_⟩
      exact ⟨s, names, hfound, hp, rfl, hn, hlevel.trans hpauses.symm⟩
    · have hno : ∀ i answer, t ≠ .list i answer := fun i answer he => hlist ⟨i, answer, he⟩
      have hx : Deed.isFaultless ⟨x, t, e⟩ := by
        intro hl
        show e.faults = x.faults
        rw [faults_take ht, Turn.faults_eq_nil hl hno, List.nil_append]
      rcases hor with ⟨hp, hall⟩ | ⟨hp, hcomplains, y, hy, hout⟩
      · rcases hadv.of_listing hp with hp' | hcrashed | ⟨answer, he⟩
        · exact .inl ⟨hp', List.forall_mem_cons.mpr ⟨hx, hall⟩⟩
        · have hne : t ≠ .collapse s.id := by
            rintro rfl
            exact hkeeps
          have hout := ((hadv.crashed_iff (e := e) hreg.orderly hfound hf hne).mp hcrashed).1
          exact (Deed.not_setsOut_of_turn (fun i names => hno i (.ok names)) hout).elim
        · exact absurd he (hno _ _)
      · have hp' : s'.phase ≠ .listing := fun hp' => hp (hadv.waits (e := e) hp').1
        exact .inr ⟨hp', hcomplains.cons hx, y, List.mem_cons_of_mem _ hy, hout⟩

/-- **`Voyage.sifts`** — a sweep that nobody pauses takes the names of subnets from its list and
complains about the others. -/
theorem Voyage.sifts (hreg : c.IsRegular) (hbegins : c.Begins id b)
    (hv : Voyage id (.ok names) (fun _ _ => True) b h d)
    (hn : ∃ name ∈ names, (Subnet.parse? name).isSome)
    (hquiet : ∀ x ∈ h, x.turn.isPause = false) : Sifts c id names h d := by
  have hb : b.IsRegular := hreg.take hbegins.turn
  have hthorough := hbegins.thorough hreg hv (fun _ => ⟨.missed, trivial⟩) hquiet
  obtain ⟨hrecords, -, s₀, hs, hp, hq, ho⟩ := hbegins.listing
  obtain ⟨s, hfound, hor⟩ := hv.complains hb hs hp hq.symm (named_ne_nil hn) hquiet
  obtain ⟨s', hfound', hoptions, hfares⟩ :=
    hv.fares hb hs hp (S := c.records.signals) (by rw [hrecords]; rfl)
  obtain rfl := Option.some.inj (hfound.symm.trans hfound')
  have hphase := Steering.phase?_of_sweep? hfound
  refine ⟨hthorough.bounded, hthorough.goesOn, fun hne => ?_, fun hover => ?_⟩
  · exact (hor.resolve_left fun hp => hne (hphase.trans (congrArg some hp))).1
  · -- The sweep is over, so it has set out, and it has failed exactly with too many probes.
    have hnot : s.phase ≠ .listing := fun hp => hover ⟨_, hphase, by rw [hp]; rfl⟩
    have hout := (hor.resolve_left hnot).2
    have hfails : s.phase = .crashed ↔ permitLimit < c.options.maxProbes.toNat := by
      rw [hfares.fails, hoptions, ho]
      exact and_iff_right hout
    constructor
    · rintro ⟨⟨l, hl⟩, -⟩
      refine Nat.le_of_not_lt fun hlim => ?_
      cases (hphase.symm.trans hl).symm.trans (congrArg some (hfails.mpr hlim))
    · intro hle
      refine (hthorough.covers hover).resolve_left fun hcrashed => ?_
      have hlim := hfails.mp (Option.some.inj (hphase.symm.trans hcrashed))
      exact absurd hle (Nat.not_le.mpr hlim)

end

end Census

end LanCensus
