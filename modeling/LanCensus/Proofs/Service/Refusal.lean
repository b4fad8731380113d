/-
# LanCensus.Proofs.Service.Refusal -- requests that are refused

Each handler makes its checks before it does anything, so a request that is refused leaves the office as it
was: inventory, settings, store, options, schedule and everything under way. All that can remain is one
message about a text that is no address (`Office.Spares`). A request that has to wait for a sweep or a probe
is never refused, for then the checks have been made (`Office.Replies`).

A removal that is granted takes out the address that the request names, and no other.
-/

import LanCensus.Census.Run
import LanCensus.Proofs.Inventory
import LanCensus.Proofs.Net.Address
import LanCensus.Service.Requests

namespace LanCensus.Service

/-- The status of an answer that is given at once. -/
def Handling.status? : Handling → Option Nat
  | .answer response => some response.status
  | .afterSweep _ | .afterLookup _ => none

namespace Office

variable {s t : Office} {detectors : List String} {r : Request} {response : Response}

/-! ## Answers -/

/-- **`Replies s detectors r t response`** — the office `s` is asked for something and gives this answer when
it has become `t`. While the answer waits for a sweep or a probe, anything can happen. -/
inductive Replies (s : Office) (detectors : List String) (r : Request) : Office → Response → Prop
  | atOnce {t : Office} {response : Response} : s.handle detectors r = (t, .answer response) →
      Replies s detectors r t (finish r response)
  | afterSweep {t u : Office} {id : Nat} {sweep : Sweep} {inventory : List Device} :
      s.handle detectors r = (t, .afterSweep id) → t.census.Reaches u.census →
      u.census.sweep? id = some sweep → sweep.phase = .ended inventory →
      Replies s detectors r u (finish r (swept inventory))
  | afterLookup {t u : Office} {id : Nat} {l : Lookup} {o : Outcome} {d : Device} :
      s.handle detectors r = (t, .afterLookup id) → t.census.Reaches u.census →
      u.census.lookup? id = some l → Census.Lookup.result l u.census.now o = some d →
      Replies s detectors r (probed { u with census := u.census.endLookup l o } d).1
        (finish r (probed { u with census := u.census.endLookup l o } d).2)

@[simp]
theorem status_finish (r : Request) (response : Response) :
    (finish r response).status = response.status := by
  unfold finish
  split <;> rfl

/-! ## Refusals -/

/-- **`Spares s t`** — nothing has changed but that the census may have announced that a text is no address. -/
def Spares (s t : Office) : Prop :=
  t = s ∨ ∃ text : String, t = { s with census := { s.census with
    notices := .progress .error s!"Invalid IP address: {text}" s.census.now :: s.census.notices } }

/-- **`Refuses s p`** — if `p` is how the office `s` handles a request, a refusal spares it. -/
def Refuses (s : Office) (p : Office × Handling) : Prop :=
  ∀ status, p.2.status? = some status → 400 ≤ status → s.Spares p.1

/-- An answer that is given without anything being done. -/
theorem refuses_still (s : Office) (response : Response) : s.Refuses (s, .answer response) :=
  fun _ _ _ => .inl rfl

/-- What is granted is not refused. -/
theorem refuses_granted (t : Office) (h : response.status = 200) : s.Refuses (t, .answer response) := by
  intro status hgiven hstatus
  rw [Handling.status?, h] at hgiven
  cases hgiven
  exact absurd hstatus (by decide)

theorem refuses_withText (escaped : List Char) {f : String → Office × Handling}
    (h : ∀ text, s.Refuses (f text)) : s.Refuses (s.withText escaped f) := by
  unfold withText
  split
  · exact h _
  · exact refuses_still s _

theorem refuses_remove (s : Office) (text : String) : s.Refuses (s.remove text) := by
  unfold remove
  split
  · exact refuses_still s _
  · split
    · exact refuses_still s _
    · exact refuses_granted _ rfl

theorem refuses_probe (s : Office) (text : String) : s.Refuses (s.probe text) := by
  intro status hgiven _
  unfold probe at hgiven ⊢
  cases haddress : Address.parse? (Text.trim text.toList) with
  | none =>
      -- The census has found the same fault and complained of it.
      refine .inr ⟨text, ?_⟩
      simp only [haddress, Census.beginLookup]
      rfl
  | some a =>
      simp only [haddress] at hgiven
      cases hgiven

theorem refuses_sweep (s : Office) : s.Refuses s.sweep := by
  unfold sweep
  split
  · exact refuses_still s _
  · intro status hgiven
    cases hgiven

theorem refuses_visit (s : Office) (detectors : List String) (r : Request) (place : Place) :
    s.Refuses (s.visit detectors r place) := by
  cases place with
  | devices => exact refuses_still s _
  | device escaped => exact refuses_withText escaped s.refuses_remove
  | status => exact refuses_still s _
  | sweep => exact s.refuses_sweep
  | pause => exact refuses_granted _ rfl
  | resume => exact refuses_granted _ rfl
  | probe escaped => exact refuses_withText escaped s.refuses_probe
  | socket => exact refuses_still s _

theorem refuses_handle (s : Office) (detectors : List String) (r : Request) :
    s.Refuses (s.handle detectors r) := by
  unfold handle
  split
  · exact refuses_still s _
  · split
    · exact refuses_still s _
    · split
      · exact s.refuses_visit detectors r _
      · exact refuses_still s _

/-! ## Removals -/

/-- **`Removes s a t`** — the address had a record, it has none any more, and of the census nothing else has
changed but that it has announced this. -/
structure Removes (s : Office) (a : Address) (t : Office) : Prop where
  known : (s.census.inventory.find? a).isSome
  census : t.census = { s.census with
    inventory := s.census.inventory.remove a
    notices := .device (.removed a) :: s.census.notices }
  found : ∀ b, t.census.inventory.find? b = if b = a then none else s.census.inventory.find? b

/-- A removal that is granted. -/
theorem removes_of_remove {text : String} (h : s.remove text = (t, .answer response))
    (hstatus : response.status = 200) : ∃ a, text.toList = a.text.toList ∧ s.Removes a t := by
  unfold remove at h
  cases ha : Address.ofString? text with
  | none =>
      simp only [ha] at h
      cases h
      cases hstatus
  | some a =>
      simp only [ha] at h
      cases hknown : s.census.inventory.find? a with
      | none =>
          simp only [hknown] at h
          cases h
          cases hstatus
      | some d =>
          simp only [hknown] at h
          cases h
          have hcensus : s.census.remove a = { s.census with
              inventory := s.census.inventory.remove a
              notices := .device (.removed a) :: s.census.notices } := by
            rw [Census.remove, hknown]
            rfl
          refine ⟨a, Address.parse?_eq_some_iff.mp ha, by rw [hknown]; rfl, hcensus, ?_⟩
          intro b
          rw [hcensus]
          exact Inventory.find?_remove ..

/-- A removal is handled as one. -/
theorem handle_removal {escaped : List Char} (hmethod : r.method = "DELETE")
    (hplace : place? r.path = some (.device escaped)) :
    s.handle detectors r = s.withText escaped s.remove := by
  have hknows : "DELETE" ∈ (Place.device escaped).methods := List.mem_singleton.mpr rfl
  rw [handle, hmethod, if_neg (by decide), hplace]
  exact if_pos hknows

/-- Nobody waits for the answer to a removal. -/
theorem removal_answered (s : Office) (escaped : List Char) :
    ∃ t response, s.withText escaped s.remove = (t, .answer response) := by
  unfold withText remove
  split
  · split
    · exact ⟨_, _, rfl⟩
    · split <;> exact ⟨_, _, rfl⟩
  · exact ⟨_, _, rfl⟩

theorem removes_of_withText {escaped : List Char}
    (h : s.withText escaped s.remove = (t, .answer response)) (hstatus : response.status = 200) :
    ∃ a : Address, Text.unescape? escaped = some a.text.toList ∧ s.Removes a t := by
  unfold withText at h
  cases htext : Text.unescape? escaped with
  | none =>
      simp only [htext] at h
      cases h
      cases hstatus
  | some text =>
      simp only [htext] at h
      obtain ⟨a, ha, hremoves⟩ := removes_of_remove h hstatus
      rw [String.toList_ofList] at ha
      exact ⟨a, congrArg some ha, hremoves⟩

/-! ## Honest answers -/

namespace Replies

/-- An answer that has been waited for is no refusal. -/
theorem spares (h : s.Replies detectors r t response) (hstatus : 400 ≤ response.status) : s.Spares t := by
  cases h with
  | atOnce hhandle =>
      rw [status_finish] at hstatus
      have hrefuses : s.Refuses (t, .answer _) := hhandle ▸ s.refuses_handle detectors r
      exact hrefuses _ rfl hstatus
  | @afterSweep _ _ _ _ inventory =>
      rw [status_finish, show (swept inventory).status = 200 from rfl] at hstatus
      exact absurd hstatus (by decide)
  | @afterLookup _ u _ l o d =>
      rw [status_finish, show (probed { u with census := u.census.endLookup l o } d).2.status = 200 from rfl]
        at hstatus
      exact absurd hstatus (by decide)

theorem removes {escaped : List Char} (h : s.Replies detectors r t response) (hmethod : r.method = "DELETE")
    (hplace : place? r.path = some (.device escaped)) (hstatus : response.status = 200) :
    ∃ a : Address, Text.unescape? escaped = some a.text.toList ∧ s.Removes a t := by
  obtain ⟨u, given, hanswer⟩ := s.removal_answered escaped
  have hremoval : s.handle detectors r = (u, .answer given) := (handle_removal hmethod hplace).trans hanswer
  cases h with
  | atOnce hhandle =>
      rw [status_finish] at hstatus
      rw [handle_removal hmethod hplace] at hhandle
      exact removes_of_withText hhandle hstatus
  | afterSweep hhandle => cases hhandle.symm.trans hremoval
  | afterLookup hhandle => cases hhandle.symm.trans hremoval

end Replies

/-- **`answer_honest`** — if a request is refused, nothing has been done; and if a removal is granted, exactly
the address that it names has been removed. -/
theorem answer_honest (h : s.Replies detectors r t response) :
    (400 ≤ response.status → s.Spares t) ∧
      ∀ escaped, r.method = "DELETE" → place? r.path = some (.device escaped) → response.status = 200 →
        ∃ a : Address, Text.unescape? escaped = some a.text.toList ∧ s.Removes a t :=
  ⟨h.spares, fun _ => h.removes⟩

/-- An office that knows one device and keeps its store in memory. -/
def desktop : Office :=
  ⟨Census.initial ⟨0, 0⟩ .default (Inventory.empty.store (.fresh ⟨10, 0, 0, 9⟩ ⟨0, 0⟩)),
    Desk.openWith .volatile []⟩

/-- The device is to be removed. -/
def removal : Request := ⟨"DELETE", "/api/devices/10.0.0.9".toList, []⟩

/-- The device is removed when that is first asked for. The second time it is not known any more, and nothing
is done. -/
theorem desktop_answer_honest :
    ∃ t granted u refused, desktop.Replies [] removal t granted ∧ granted.status = 200 ∧
      (∃ a : Address, Text.unescape? "10.0.0.9".toList = some a.text.toList ∧ desktop.Removes a t) ∧
      t.Replies [] removal u refused ∧ refused.status = 404 ∧ t.Spares u := by
  have hplace : place? removal.path = some (.device "10.0.0.9".toList) := by decide +kernel
  have hanswered (s : Office) : ∃ t response, s.handle [] removal = (t, .answer response) := by
    rw [handle_removal rfl hplace]
    exact s.removal_answered _
  obtain ⟨t, granted, hgranted⟩ := hanswered desktop
  have h200 : granted.status = 200 := by
    have hstatus : (desktop.handle [] removal).2.status? = some 200 := by decide +kernel
    rw [hgranted] at hstatus
    exact Option.some.inj hstatus
  obtain ⟨u, refused, hrefused⟩ := hanswered t
  have h404 : refused.status = 404 := by
    have hstatus : ((desktop.handle [] removal).1.handle [] removal).2.status? = some 404 := by
      decide +kernel
    rw [hgranted, hrefused] at hstatus
    exact Option.some.inj hstatus
  refine ⟨t, _, u, _, .atOnce hgranted, ?_, ?_, .atOnce hrefused, ?_, ?_⟩
  · rwa [status_finish]
  · refine (answer_honest (.atOnce hgranted)).2 _ rfl hplace ?_
    rwa [status_finish]
  · rwa [status_finish]
  · refine (answer_honest (.atOnce hrefused)).1 ?_
    rw [status_finish, h404]
    decide

end Office

end LanCensus.Service
