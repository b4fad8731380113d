/-
# LanCensus.Proofs.Census.Named -- sweeps over lists of good names

A sweep skips what names no subnet. So if it is told nothing but names, it has nothing to complain about and its
itinerary has the addresses of all of them. This is so of every fixed list that was accepted (`names_accepted`) and
of the list of the subnets of a host. The names on that list are plain and all different, so the sweep dispatches
each of the addresses once (`local_sweep`).
-/

import LanCensus.Proofs.Census.Fruitless
import LanCensus.Proofs.Net.Interfaces

namespace LanCensus

/-! ## Itineraries of names -/

namespace Sweep.Options

variable {o : Options} {ns : List Subnet} {names : List String} {a : Address}

theorem mem_route : a ∈ o.route ns ↔
    ∃ n ∈ ns, ∃ octet : UInt8, o.startOctet ≤ octet ∧ octet ≤ o.endOctet ∧ a = n.host octet := by
  simp only [route, List.mem_flatMap, List.mem_map, List.mem_filter, List.mem_range, decide_eq_true_eq]
  constructor
  · rintro ⟨n, hn, k, ⟨hk, hstart, hend⟩, rfl⟩
    have hval : k.toUInt8.toNat = k := UInt8.toNat_ofNat_of_lt' hk
    refine ⟨n, hn, k.toUInt8, ?_, ?_, rfl⟩
    · rwa [UInt8.le_iff_toNat_le, hval]
    · rwa [UInt8.le_iff_toNat_le, hval]
  · rintro ⟨n, hn, octet, hstart, hend, rfl⟩
    refine ⟨n, hn, octet.toNat, ⟨octet.toNat_lt, hstart, hend⟩, ?_⟩
    rw [Nat.toUInt8, UInt8.ofNat_toNat]

/-- The addresses of the names are those of the subnets that they name. -/
theorem mem_itinerary : a ∈ o.itinerary (.ok names) ↔
    ∃ name ∈ names, ∃ n : Subnet, n.IsNamed name ∧
      ∃ octet : UInt8, o.startOctet ≤ octet ∧ octet ≤ o.endOctet ∧ a = n.host octet := by
  rw [itinerary, mem_route]
  simp only [List.mem_filterMap, Subnet.parse?_eq_some_iff]
  constructor
  · rintro ⟨n, ⟨name, hname, hn⟩, hoctet⟩
    exact ⟨name, hname, n, hn, hoctet⟩
  · rintro ⟨name, hname, n, hn, hoctet⟩
    exact ⟨n, ⟨name, hname, hn⟩, hoctet⟩

/-- **`nodup_route`** — different subnets have no addresses in common. -/
theorem nodup_route (h : ns.Nodup) : (o.route ns).Nodup := by
  have hsubnet {n : Subnet} {ks : List Nat} {a : Address} (ha : a ∈ ks.map fun k => n.host k.toUInt8) :
      Subnet.ofAddress a = n := by
    obtain ⟨k, -, rfl⟩ := List.mem_map.mp ha
    rfl
  rw [route, List.nodup_flatMap]
  constructor
  · intro n _
    apply List.Nodup.map_on _ (List.nodup_range.filter _)
    intro j hj k hk he
    obtain ⟨hj, -⟩ := List.mem_filter.mp hj
    obtain ⟨hk, -⟩ := List.mem_filter.mp hk
    have hlast : j.toUInt8.toNat = k.toUInt8.toNat := congrArg (fun a : Address => a.last.toNat) he
    rwa [UInt8.toNat_ofNat_of_lt' (List.mem_range.mp hj),
      UInt8.toNat_ofNat_of_lt' (List.mem_range.mp hk)] at hlast
  · apply h.imp
    intro m n hne
    apply List.disjoint_left.mpr
    intro a hm hn
    exact hne ((hsubnet hm).symm.trans (hsubnet hn))

end Sweep.Options

/-! ## Sweeps of names -/

/-- A list of names gives nothing to complain about. -/
theorem complaints_eq_nil {names : List String} (h : ∀ name ∈ names, ∃ n : Subnet, n.IsNamed name) :
    complaints (.ok names) = [] := by
  rw [complaints, List.map_eq_nil_iff, List.filter_eq_nil_iff]
  intro name hname
  obtain ⟨n, hn⟩ := h name hname
  simp [Subnet.parse?_eq_some_iff.mpr hn]

namespace Census

variable {c b d : Census} {id : Nat} {h : List Deed} {names : List String}
  {ok : Address → Outcome → Prop}

theorem exists_isSome_parse? (hne : names ≠ []) (hnames : ∀ name ∈ names, ∃ n : Subnet, n.IsNamed name) :
    ∃ name ∈ names, (Subnet.parse? name).isSome := by
  obtain ⟨name, hmem⟩ := List.exists_mem_of_ne_nil names hne
  obtain ⟨n, hn⟩ := hnames name hmem
  refine ⟨name, hmem, ?_⟩
  rw [Subnet.parse?_eq_some_iff.mpr hn, Option.isSome_some]

theorem Story.take_of_mem (hs : Story b h d) {x : Deed} (hx : x ∈ h) : x.before.take x.turn = some x.after := by
  induction hs with
  | start => cases hx
  | turn _ ht ih =>
      rcases List.mem_cons.mp hx with rfl | hx
      · exact ht
      · exact ih hx

/-- **`Voyage.faultless`** — a sweep that is told names only, and some, never complains. -/
theorem Voyage.faultless (hv : Voyage id (.ok names) ok b h d) (hne : names ≠ [])
    (hnames : ∀ name ∈ names, ∃ n : Subnet, n.IsNamed name) : ∀ x ∈ h, x.isFaultless := by
  have hfailure : failure? (.ok names) = none :=
    failure?_eq_none_iff.mpr (named_ne_nil (exists_isSome_parse? hne hnames))
  have hsilent : ∀ {e : Census} {t : Turn}, t.Keeps (.ok names) ok e → t.isLookUp = false → t.faults = [] := by
    intro e t hkeeps hlookUp
    cases t with
    | list i answer =>
        have hanswer : answer = .ok names := hkeeps
        rw [hanswer, Turn.faults, hfailure, complaints_eq_nil hnames]
        rfl
    | _ =>
        apply Turn.faults_eq_nil hlookUp
        rintro _ _ ⟨⟩
  intro x hx hlookUp
  rw [faults_take (hv.story.take_of_mem hx), hsilent (hv.keeps x hx) hlookUp, List.nil_append]

/-- **`Voyage.covers`** — a sweep that is told names only, and that nobody pauses, comes to an end and covers the
addresses of all of them, if it can manage its probes. -/
theorem Voyage.covers (hreg : c.IsRegular) (hbegins : c.Begins id b)
    (hv : Voyage id (.ok names) (fun _ _ => True) b h d) (hm : c.options.maxProbes.toNat ≤ permitLimit)
    (hne : names ≠ []) (hnames : ∀ name ∈ names, ∃ n : Subnet, n.IsNamed name)
    (hquiet : ∀ x ∈ h, x.turn.isPause = false) :
    h.countP (·.turn.isWork) ≤ 5 * (c.options.itinerary (.ok names)).length + 4 ∧
      (d.InFlight id → d.CanGoOn (.ok names) fun _ _ => True) ∧
      (¬ d.InFlight id → (∃ l, d.steering.phase? id = some (.ended l)) ∧
        dispatchedBy id (h.map Deed.step) = c.options.itinerary (.ok names)) := by
  have hsifts := hv.sifts hreg hbegins (exists_isSome_parse? hne hnames) hquiet
  refine ⟨hsifts.bounded, hsifts.goesOn, fun hover => ?_⟩
  exact (hsifts.covers hover).mpr hm

/-! ## Fixed lists -/

/-- **`names_accepted`** — the texts that are read are the names of subnets, and any other text is the error that
mentions it. An address is put together again from the plain name of its subnet and its last octet. A fixed list is
accepted, and accepted as it is, exactly if it holds names only. And then no sweep that is told it complains of
anything, and a sweep that nobody pauses leaves out no address of any of the names. -/
theorem names_accepted :
    (∀ text n, Subnet.read text = .ok n ↔ n.IsNamed text) ∧
    (∀ text, (¬ ∃ n : Subnet, n.IsNamed text) → Subnet.read text = .error (.invalid text)) ∧
    (∀ a : Address, ∃ n, Subnet.read (Subnet.ofAddress a).name = .ok n ∧ n.host a.last = a) ∧
    (∀ given kept, fixedSubnets given = .ok kept ↔
      kept = given ∧ ∀ name ∈ given, ∃ n : Subnet, n.IsNamed name) ∧
    (∀ given names id ok b h d, fixedSubnets given = .ok names → names ≠ [] →
      Voyage id (.ok names) ok b h d → ∀ x ∈ h, x.isFaultless) ∧
    ∀ given names id c₀ c b h d, fixedSubnets given = .ok names → names ≠ [] → c₀.IsNew → Reaches c₀ c →
      c.options.maxProbes.toNat ≤ permitLimit → c.Begins id b →
      Voyage id (.ok names) (fun _ _ => True) b h d → (∀ x ∈ h, x.turn.isPause = false) →
        (d.InFlight id → d.CanGoOn (.ok names) fun _ _ => True) ∧
        (¬ d.InFlight id → ∀ name ∈ names, ∀ n : Subnet, n.IsNamed name → ∀ octet : UInt8,
          c.options.startOctet ≤ octet → octet ≤ c.options.endOctet →
            n.host octet ∈ dispatchedBy id (h.map Deed.step)) := by
  refine ⟨fun text => (Subnet.read_eq text).1, fun text => (Subnet.read_eq text).2, fun a => ?_,
    fun given kept => fixedSubnets_eq_ok_iff, ?_, ?_⟩
  · exact ⟨Subnet.ofAddress a, ((Subnet.read_eq _).1 _).mpr (Subnet.isNamed_name _),
      Subnet.host_ofAddress a⟩
  · intro given names id ok b h d haccepted hne hv
    obtain ⟨rfl, hnames⟩ := fixedSubnets_eq_ok_iff.mp haccepted
    exact hv.faultless hne hnames
  · intro given names id c₀ c b h d haccepted hne hc hr hm hbegins hv hquiet
    obtain ⟨rfl, hnames⟩ := fixedSubnets_eq_ok_iff.mp haccepted
    have hreg : c.IsRegular := (IsRegular.of_isNew hc).reaches hr
    obtain ⟨-, hgoesOn, hcovers⟩ := hv.covers hreg hbegins hm hne hnames hquiet
    refine ⟨hgoesOn, fun hover name hname n hn octet hstart hend => ?_⟩
    rw [(hcovers hover).2]
    exact Sweep.Options.mem_itinerary.mpr ⟨name, hname, n, hn, octet, hstart, hend, rfl⟩

/-- A sweep of two subnets, one address each, with one probe at a time. -/
def twoSubnetTurns (names : List String) : List Turn :=
  [.list 0 (.ok names), .proceed 0, .ping 1, .endProbe 1 .missed, .proceed 0, .ping 2, .endProbe 2 .crashed,
    .proceed 0, .proceed 0]

/-- A sweep of the first addresses of two subnets that runs to its end. -/
def SweepsBoth (names : List String) (b : Census) (h : List Deed) (d : Census) : Prop :=
  ((small false).requestSweep none).Begins 0 b ∧ Voyage 0 (.ok names) (fun _ _ => True) b h d ∧
    (∀ x ∈ h, x.turn.isPause = false) ∧ ¬ d.InFlight 0

theorem sweepsBoth_of_replay (names : List String)
    (hcheck : (((small false).requestSweep none).take (.embark 0)).any (fun b =>
      (b.replay (twoSubnetTurns names)).any fun d =>
        decide (¬ d.InFlight 0 ∧ ∀ x ∈ b.chronicle (twoSubnetTurns names), x.before.InFlight 0 ∧
          x.turn.Keeps (.ok names) (fun _ _ => True) x.before ∧ x.turn.isPause = false)) = true) :
    ∃ b h d, SweepsBoth names b h d := by
  obtain ⟨b, hb, hcheck⟩ := (Option.any_eq_true _ _).mp hcheck
  obtain ⟨d, hd, hcheck⟩ := (Option.any_eq_true _ _).mp hcheck
  obtain ⟨hover, hdeeds⟩ := of_decide_eq_true hcheck
  have hcurrent : ∀ p, ((small false).requestSweep none).steering.phase? 0 = some (.queued p) →
      p.getD ((small false).requestSweep none).pauses = ((small false).requestSweep none).pauses := by
    intro p hp
    cases hp
    rfl
  have hv : Voyage 0 (.ok names) (fun _ _ => True) b (b.chronicle (twoSubnetTurns names)) d :=
    ⟨story_of_replay hd, fun x hx => (hdeeds x hx).1, fun x hx => (hdeeds x hx).2.1⟩
  exact ⟨b, _, d, ⟨rfl, hcurrent, hb⟩, hv, fun x hx => (hdeeds x hx).2.2, hover⟩

theorem small_reaches_request : Reaches (small false) ((small false).requestSweep none) :=
  .step (t := .requestSweep) .refl rfl

/-- A list of names with blanks, plus signs and zeros in them, one that is no name, and a sweep. -/
theorem twoNames_accepted :
    Subnet.read " 10.0.+7\t" = .ok ⟨10, 0, 7⟩ ∧ Subnet.read "192.168.300" = .error (.invalid "192.168.300") ∧
    fixedSubnets [" 10.0.+7\t", "192.168.001"] = .ok [" 10.0.+7\t", "192.168.001"] ∧
    ∃ b h d, SweepsBoth [" 10.0.+7\t", "192.168.001"] b h d ∧ (∀ x ∈ h, x.isFaultless) ∧
      ⟨10, 0, 7, 1⟩ ∈ dispatchedBy 0 (h.map Deed.step) ∧ ⟨192, 168, 1, 1⟩ ∈ dispatchedBy 0 (h.map Deed.step) := by
  obtain ⟨hread, hother, -, hfixed, hfaultless, hcovers⟩ := names_accepted
  have hfirst : Subnet.read " 10.0.+7\t" = .ok ⟨10, 0, 7⟩ := by decide +kernel
  have hsecond : Subnet.read "192.168.001" = .ok ⟨192, 168, 1⟩ := by decide +kernel
  have haccepted : fixedSubnets [" 10.0.+7\t", "192.168.001"] = .ok [" 10.0.+7\t", "192.168.001"] := by
    rw [hfixed]
    refine ⟨rfl, List.forall_mem_cons.mpr ⟨⟨_, (hread _ _).mp hfirst⟩, ?_⟩⟩
    exact List.forall_mem_singleton.mpr ⟨_, (hread _ _).mp hsecond⟩
  have hnone : ¬ ∃ n : Subnet, n.IsNamed "192.168.300" := by
    rintro ⟨n, hn⟩
    have hfails : Subnet.read "192.168.300" = .error (.invalid "192.168.300") := by decide +kernel
    cases hfails.symm.trans ((hread _ n).mpr hn)
  obtain ⟨b, h, d, hbegins, hv, hquiet, hover⟩ :=
    sweepsBoth_of_replay [" 10.0.+7\t", "192.168.001"] (by decide +kernel)
  have hsent := (hcovers _ _ 0 _ _ b h d haccepted (by simp) (small_isNew false) small_reaches_request
    (by decide) hbegins hv hquiet).2 hover
  refine ⟨hfirst, hother _ hnone, haccepted, b, h, d, ⟨hbegins, hv, hquiet, hover⟩,
    hfaultless _ _ 0 _ b h d haccepted (by simp) hv, ?_, ?_⟩
  · exact hsent _ (by simp) ⟨10, 0, 7⟩ ((hread _ _).mp hfirst) 1 (by decide) (by decide)
  · exact hsent _ (by simp) ⟨192, 168, 1⟩ ((hread _ _).mp hsecond) 1 (by decide) (by decide)

/-! ## The subnets of a host -/

/-- **`local_sweep`** — whatever the interfaces of a host. The list of its subnets has the plain names of the
subnets of the addresses that count, each once, and in the order in which they are shown first. Each of them is
read, and no two as the same subnet. And a sweep that is told the list, if there is something on it, and that nobody
pauses, takes a bounded number of turns, can always go on until it has ended, and has then dispatched each address
that consists of a name on the list and a last octet between the bounds, once. -/
theorem local_sweep (is : List Interface) :
    (∀ name, name ∈ localSubnets is ↔
      ∃ i ∈ is, ∃ a, some a ∈ i.addresses ∧ i.Exposes a ∧ name = (Subnet.ofAddress a).name) ∧
    (localSubnets is).Nodup ∧
    ((localSubnets is).Pairwise fun x y => (shownNames is).idxOf x < (shownNames is).idxOf y) ∧
    (∀ name ∈ localSubnets is, (Subnet.parse? name).isSome) ∧
    (∀ x ∈ localSubnets is, ∀ y ∈ localSubnets is, Subnet.parse? x = Subnet.parse? y → x = y) ∧
    ∀ id c₀ c b h d, c₀.IsNew → Reaches c₀ c → c.options.maxProbes.toNat ≤ permitLimit →
      localSubnets is ≠ [] → c.Begins id b →
      Voyage id (.ok (localSubnets is)) (fun _ _ => True) b h d → (∀ x ∈ h, x.turn.isPause = false) →
        h.countP (·.turn.isWork) ≤ 5 * (c.options.itinerary (.ok (localSubnets is))).length + 4 ∧
        (d.InFlight id → d.CanGoOn (.ok (localSubnets is)) fun _ _ => True) ∧
        (¬ d.InFlight id → (∃ l, d.steering.phase? id = some (.ended l)) ∧
          (dispatchedBy id (h.map Deed.step)).Nodup ∧
          ∀ a, a ∈ dispatchedBy id (h.map Deed.step) ↔ ∃ name ∈ localSubnets is, ∃ octet : UInt8,
            c.options.startOctet ≤ octet ∧ octet ≤ c.options.endOctet ∧
              a.text = s!"{name}.{octet.toNat}") := by
  have hnames : ∀ name ∈ localSubnets is, ∃ n : Subnet, n.IsNamed name := by
    intro name hname
    obtain ⟨n, rfl⟩ := exists_eq_name hname
    exact ⟨n, Subnet.isNamed_name n⟩
  refine ⟨fun name => mem_localSubnets, nodup_localSubnets is, localSubnets_inOrder is, ?_, ?_, ?_⟩
  · intro name hname
    obtain ⟨n, rfl⟩ := exists_eq_name hname
    rw [Subnet.parse?_name, Option.isSome_some]
  · intro x hx y hy he
    obtain ⟨m, rfl⟩ := exists_eq_name hx
    obtain ⟨n, rfl⟩ := exists_eq_name hy
    rw [Subnet.parse?_name, Subnet.parse?_name, Option.some.injEq] at he
    rw [he]
  · intro id c₀ c b h d hc hr hm hne hbegins hv hquiet
    have hreg : c.IsRegular := (IsRegular.of_isNew hc).reaches hr
    obtain ⟨hbounded, hgoesOn, hcovers⟩ := hv.covers hreg hbegins hm hne hnames hquiet
    refine ⟨hbounded, hgoesOn, fun hover => ?_⟩
    obtain ⟨hended, hsent⟩ := hcovers hover
    rw [hsent]
    refine ⟨hended, Sweep.Options.nodup_route (nodup_parsed is), fun a => ?_⟩
    rw [Sweep.Options.mem_itinerary]
    constructor
    · rintro ⟨name, hname, n, hn, octet, hstart, hend, rfl⟩
      obtain ⟨m, rfl⟩ := exists_eq_name hname
      -- A plain name names no other subnet than its own.
      have hplain : m = n :=
        Option.some.inj ((Subnet.parse?_name m).symm.trans (Subnet.parse?_eq_some_iff.mpr hn))
      exact ⟨m.name, hname, octet, hstart, hend, by rw [hplain, Subnet.text_host]⟩
    · rintro ⟨name, hname, octet, hstart, hend, htext⟩
      obtain ⟨n, rfl⟩ := exists_eq_name hname
      refine ⟨n.name, hname, n, Subnet.isNamed_name n, octet, hstart, hend, ?_⟩
      apply Address.text_inj.mp
      rw [htext, Subnet.text_host]

/-- Two networks, one of them on two interfaces, among the host itself, a bridge and addresses of other kinds. -/
def twoNetworks : List Interface := [
  ⟨"lo", [some ⟨127, 0, 0, 1⟩]⟩,
  ⟨"eth0", [none, some ⟨192, 168, 1, 20⟩, some ⟨192, 168, 1, 21⟩]⟩,
  ⟨"docker0", [some ⟨172, 17, 0, 1⟩]⟩,
  ⟨"wlan0", [some ⟨169, 254, 7, 7⟩, some ⟨10, 0, 0, 5⟩, some ⟨192, 168, 1, 30⟩]⟩]

theorem twoNetworks_swept : localSubnets twoNetworks = ["192.168.1", "10.0.0"] ∧
    ∃ b h d, SweepsBoth (localSubnets twoNetworks) b h d ∧ (dispatchedBy 0 (h.map Deed.step)).Nodup ∧
      ⟨192, 168, 1, 1⟩ ∈ dispatchedBy 0 (h.map Deed.step) ∧ ⟨10, 0, 0, 1⟩ ∈ dispatchedBy 0 (h.map Deed.step) := by
  obtain ⟨-, -, -, -, -, hsweep⟩ := local_sweep twoNetworks
  have hlist : localSubnets twoNetworks = ["192.168.1", "10.0.0"] := by decide +kernel
  obtain ⟨b, h, d, hbegins, hv, hquiet, hover⟩ :=
    sweepsBoth_of_replay (localSubnets twoNetworks) (by decide +kernel)
  obtain ⟨-, hnodup, hsent⟩ := (hsweep 0 _ _ b h d (small_isNew false) small_reaches_request (by decide)
    (by rw [hlist]; simp) hbegins hv hquiet).2.2 hover
  refine ⟨hlist, b, h, d, ⟨hbegins, hv, hquiet, hover⟩, hnodup, ?_, ?_⟩
  · rw [hsent]
    exact ⟨"192.168.1", by rw [hlist]; simp, 1, by decide, by decide, by decide +kernel⟩
  · rw [hsent]
    exact ⟨"10.0.0", by rw [hlist]; simp, 1, by decide, by decide, by decide +kernel⟩

end Census

end LanCensus
