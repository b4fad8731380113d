/-
# LanCensus.Proofs.Service.Overlap -- writes that do not overlap

Nothing in an office keeps two writes of the same file apart, and of two that are under way at once the older
one may take effect last. If no write is begun while another of its kind is under way, this cannot be: at any
time either the write that was begun last is under way, or it took effect last (`InTurn`).
-/

import LanCensus.Proofs.Service.Operation

namespace LanCensus.Service

open Operation

variable {α : Type} {f : Writing → Option α} {o p q : Operation} {x : Happening} {h : List Entry}

/-- A write is begun while another of those that `f` asks for is under way. -/
def Entry.overlaps (f : Writing → Option α) (x : Entry) : Prop :=
  (∃ c, x.begins? f = some c) ∧ ∃ s ∈ x.before.savings, s.standing = .begun ∧ s.content? f ≠ none

/-- **`InTurn f h o`** — after the history `h` at most the write that was begun last is under way, and it
has taken effect if it is not. -/
structure InTurn (f : Writing → Option α) (h : List Entry) (o : Operation) : Prop where
  latest : ∀ s ∈ o.savings, s.standing = .begun → s.content? f ≠ none → s.content? f = lastBegun f h
  landed : lastLanded f h = lastBegun f h ∨
    ∃ s ∈ o.savings, s.standing = .begun ∧ s.content? f ≠ none ∧ s.content? f = lastBegun f h

/-- The same writes are under way in `o` and in `p`. -/
def SameUnderWay (o p : Operation) : Prop :=
  ∀ s : Saving, s.standing = .begun → (s ∈ p.savings ↔ s ∈ o.savings)

/-- A saving whose write is over gives up its number. -/
theorem sameUnderWay_drop (ho : o.IsNumbered) {s : Saving} (hs : s ∈ o.savings)
    (hover : s.standing ≠ .begun) : SameUnderWay o (o.drop s) := by
  intro u hu
  refine ⟨fun hmem => List.mem_of_mem_filter hmem, fun hmem => List.mem_filter.mpr ⟨hmem, ?_⟩⟩
  rw [decide_eq_true_iff]
  intro he
  rw [ho.eq_of_id hmem hs he] at hu
  exact hover hu

namespace InTurn

theorem keep (hi : InTurn f h o) (hsame : SameUnderWay o p)
    (hbegins : Entry.begins? f ⟨o, x, p⟩ = none) (hlands : Entry.lands? f ⟨o, x, p⟩ = none) :
    InTurn f (⟨o, x, p⟩ :: h) p := by
  refine ⟨fun s hs hb => ?_, ?_⟩
  · rw [lastBegun_cons_of_none hbegins]
    exact hi.latest s ((hsame s hb).mp hs) hb
  · rw [lastBegun_cons_of_none hbegins, lastLanded_cons_of_none hlands]
    exact hi.landed.imp_right fun ⟨s, hs, hb, hrest⟩ => ⟨s, (hsame s hb).mpr hs, hb, hrest⟩

/-- A write is begun when none is under way. -/
theorem beginWrite (hi : InTurn f h o) (hsame : SameUnderWay o q) (hfresh : q.fresh = o.fresh) {w : Writing}
    {notice : Option Notice} (hlands : Entry.lands? f ⟨o, x, q.beginWrite w notice⟩ = none)
    (halone : ¬ Entry.overlaps f ⟨o, x, q.beginWrite w notice⟩) :
    InTurn f (⟨o, x, q.beginWrite w notice⟩ :: h) (q.beginWrite w notice) := by
  have hbegins : Entry.begins? f ⟨o, x, q.beginWrite w notice⟩ = (f w).map (o.fresh, ·) :=
    Entry.begins?_beginWrite hfresh
  have hcontent : Saving.content? f ⟨q.fresh, w, .begun, notice⟩ = (f w).map (o.fresh, ·) :=
    hfresh ▸ rfl
  cases hw : f w with
  | none =>
      rw [hw] at hbegins hcontent
      refine ⟨fun s hs hb hne => ?_, ?_⟩
      · rw [lastBegun_cons_of_none hbegins]
        rcases List.mem_cons.mp hs with rfl | hs
        · exact absurd hcontent hne
        · exact hi.latest s ((hsame s hb).mp hs) hb hne
      · rw [lastBegun_cons_of_none hbegins, lastLanded_cons_of_none hlands]
        exact hi.landed.imp_right fun ⟨s, hs, hb, hrest⟩ =>
          ⟨s, List.mem_cons_of_mem _ ((hsame s hb).mpr hs), hb, hrest⟩
  | some a =>
      rw [hw] at hbegins hcontent
      refine ⟨fun s hs hb hne => ?_, .inr ⟨_, List.mem_cons_self, rfl, ?_, ?_⟩⟩
      · rw [lastBegun_cons_of_some hbegins]
        rcases List.mem_cons.mp hs with rfl | hs
        · exact hcontent
        · exact absurd ⟨⟨_, hbegins⟩, s, (hsame s hb).mp hs, hb, hne⟩ halone
      · rw [hcontent]
        exact Option.some_ne_none _
      · rw [lastBegun_cons_of_some hbegins]
        exact hcontent

/-- The savings that are under way when the write of `s` has taken effect. -/
theorem mem_land {s u : Saving} (hs : s ∈ o.savings) (ho : o.IsNumbered) (hb : u.standing = .begun) :
    u ∈ (o.land s).savings ↔ u ∈ o.savings ∧ u ≠ s := by
  rw [land_eq]
  constructor
  · intro hmem
    obtain ⟨v, hv, rfl⟩ := List.mem_map.mp hmem
    split at hb
    · cases hresult : (o.desk.write s.writing).2 <;> simp [hresult, Standing.of] at hb
    · next hne =>
      rw [if_neg hne]
      refine ⟨hv, ?_⟩
      rintro rfl
      exact hne rfl
  · rintro ⟨hmem, hne⟩
    refine List.mem_map.mpr ⟨u, hmem, if_neg fun he => hne (ho.eq_of_id hmem hs he)⟩

theorem land (hi : InTurn f h o) (ho : o.IsNumbered) {s : Saving} (hs : o.saving? s.id = some s)
    (hb : s.standing = .begun) : InTurn f (⟨o, .land s.id, o.land s⟩ :: h) (o.land s) := by
  have hmem : s ∈ o.savings := List.mem_of_find?_eq_some hs
  have hbegins : Entry.begins? f ⟨o, .land s.id, o.land s⟩ = none :=
    Entry.begins?_eq_none (ho.acts (.land hs hb)) rfl
  have hlands : Entry.lands? f ⟨o, .land s.id, o.land s⟩ = s.content? f := by
    show (o.saving? s.id).bind (Saving.content? f) = _
    rw [hs, Option.bind_some]
  refine ⟨fun u hu hub => ?_, ?_⟩
  · rw [lastBegun_cons_of_none hbegins]
    exact hi.latest u ((mem_land hmem ho hub).mp hu).1 hub
  · rw [lastBegun_cons_of_none hbegins]
    cases hc : s.content? f with
    | none =>
        rw [lastLanded_cons_of_none (hlands.trans hc)]
        refine hi.landed.imp_right fun ⟨u, hu, hub, hne, hlast⟩ => ?_
        refine ⟨u, (mem_land hmem ho hub).mpr ⟨hu, ?_⟩, hub, hne, hlast⟩
        rintro rfl
        exact hne hc
    | some c =>
        rw [lastLanded_cons_of_some (hlands.trans hc)]
        refine .inl (hc.symm.trans (hi.latest s hmem hb ?_))
        rw [hc]
        exact Option.some_ne_none _

theorem acts (hi : InTurn f h o) (ho : o.IsNumbered) (hacts : Acts o x p)
    (halone : ¬ Entry.overlaps f ⟨o, x, p⟩) : InTurn f (⟨o, x, p⟩ :: h) p := by
  have hp := ho.acts hacts
  have hsame : ∀ {r : Operation}, r.savings = o.savings → SameUnderWay o r := fun hr u _ => by rw [hr]
  cases hacts with
  | turn | giveUp | removeUnknown | pass =>
      exact hi.keep (hsame (by rfl)) (Entry.begins?_eq_none hp rfl) rfl
  | answer | remove | save | heed => exact hi.beginWrite (hsame (by rfl)) (by rfl) rfl halone
  | land hs hb => exact hi.land ho hs hb
  | follow hs hdone =>
      refine hi.beginWrite (sameUnderWay_drop ho (List.mem_of_find?_eq_some hs) ?_) (by rfl) rfl halone
      rw [hdone]
      exact nofun
  | @finish s hs hor =>
      have hover : s.standing ≠ .begun := by
        rcases hor with ⟨hdone, -⟩ | ⟨e, he⟩
        · rw [hdone]
          exact nofun
        · rw [he]
          exact nofun
      refine hi.keep ?_ (Entry.begins?_eq_none hp rfl) rfl
      exact sameUnderWay_drop ho (List.mem_of_find?_eq_some hs) hover

end InTurn

theorem Log.inTurn (hlog : Log o h p) (ho : o.savings = []) (halone : ∀ x ∈ h, ¬ x.overlaps f) :
    InTurn f h p := by
  induction hlog with
  | start => exact ⟨by simp [ho], .inl rfl⟩
  | entry hlog hstep ih =>
      obtain ⟨hx, halone⟩ := List.forall_mem_cons.mp halone
      exact (ih halone).acts (hlog.isNumbered ho) (acts_of_step hstep) hx

/-- **`lastLanded_eq_lastBegun`** — writes that never overlap are not overtaken: when none is under way, the
one that was begun last took effect last. -/
theorem lastLanded_eq_lastBegun (hlog : Log o h p) (ho : o.savings = [])
    (halone : ∀ x ∈ h, ¬ x.overlaps f) (hp : p.savings = []) : lastLanded f h = lastBegun f h := by
  refine (hlog.inTurn ho halone).landed.resolve_right ?_
  rintro ⟨s, hs, -⟩
  rw [hp] at hs
  cases hs

end LanCensus.Service
