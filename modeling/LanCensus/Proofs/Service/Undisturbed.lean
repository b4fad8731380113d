/-
# LanCensus.Proofs.Service.Undisturbed -- an office that is left to itself

A saving that nothing comes between does what `Desk.save` does in one go: its writes take effect one after
the other, and when it is over the notice that it was about has been passed on (`settles_beginSave`). So an
office that begins nothing else meanwhile removes devices, receives notices and answers lookups as
`Office.remove`, `Desk.forward` and `Office.probed` say, whatever else is under way and whether its store
works or not.
-/

import LanCensus.Proofs.Service.Operation

namespace LanCensus.Service

/-- Whether a saving that is under way goes on. -/
def Happening.isOfSaving : Happening → Bool
  | .land _ | .goOn _ => true
  | _ => false

namespace Operation

variable {o q r : Operation} {d : Desk} {w : Writing} {notice : Option Notice}

/-- **`Settles q o d`** — if only savings go on, `q` comes to where `o` is, but for its desk, which is `d`.
-/
def Settles (q o : Operation) (d : Desk) : Prop :=
  ∃ xs p, (∀ x ∈ xs, Happening.isOfSaving x = true) ∧ q.replay xs = some p ∧
    p.toOffice = ⟨o.census, d⟩ ∧ p.waiting = o.waiting ∧ p.savings = o.savings

theorem Settles.step {x : Happening} (hr : Settles r o d) (hx : x.isOfSaving = true)
    (hstep : q.step x = some r) : Settles q o d := by
  obtain ⟨xs, p, hxs, hreplay, hrest⟩ := hr
  refine ⟨x :: xs, p, List.forall_mem_cons.mpr ⟨hx, hxs⟩, ?_, hrest⟩
  rw [replay, List.foldlM_cons, hstep]
  exact hreplay

/-! ## One write -/

/-- The operation `o` with a saving in front that has the number that was fresh. -/
def withSaving (o : Operation) (d : Desk) (s : Standing) (w : Writing) (notice : Option Notice) :
    Operation :=
  { o with desk := d, savings := ⟨o.fresh, w, s, notice⟩ :: o.savings, fresh := o.fresh + 1 }

variable {s : Standing}

theorem saving?_withSaving :
    (o.withSaving d s w notice).saving? o.fresh = some ⟨o.fresh, w, s, notice⟩ :=
  List.find?_cons_of_pos (beq_self_eq_true o.fresh)

theorem drop_withSaving (ho : o.IsNumbered) :
    (o.withSaving d s w notice).drop ⟨o.fresh, w, s, notice⟩ =
      { o with desk := d, fresh := o.fresh + 1 } := by
  have hsavings : (⟨o.fresh, w, s, notice⟩ :: o.savings : List Saving).filter (·.id ≠ o.fresh) =
      o.savings := by
    rw [List.filter_cons_of_neg (by simp), List.filter_eq_self]
    intro u hu
    simpa using Nat.ne_of_lt (ho.below u hu)
  exact congrArg (fun l => ({ o with desk := d, savings := l, fresh := o.fresh + 1 } : Operation)) hsavings

/-- The write takes effect. -/
theorem step_land (ho : o.IsNumbered) :
    (o.beginWrite w notice).step (.land o.fresh) =
      some (o.withSaving (o.desk.write w).1 (.of (o.desk.write w).2) w notice) := by
  have hs : (o.beginWrite w notice).saving? o.fresh = some ⟨o.fresh, w, .begun, notice⟩ :=
    saving?_withSaving (d := o.desk)
  have hother : ∀ t : Saving, o.savings.map (fun u => if u.id = o.fresh then t else u) = o.savings := by
    intro t
    conv_rhs => rw [← List.map_id o.savings]
    exact List.map_congr_left fun u hu => if_neg (Nat.ne_of_lt (ho.below u hu))
  simp only [step, hs, Option.bind_eq_bind, Option.bind_some, if_true]
  rw [land_eq]
  simp only [put, beginWrite, List.map_cons, if_true, hother]
  rfl

/-- A saving that has failed is over. -/
theorem settles_failed (ho : o.IsNumbered) (e : SaveError) :
    Settles (o.withSaving d (.failed e) w notice) o (notice.elim d d.pass) := by
  refine ⟨[.goOn o.fresh], (o.withSaving d (.failed e) w notice).conclude ⟨o.fresh, w, .failed e, notice⟩,
    by simp [Happening.isOfSaving], ?_, ?_⟩
  · rw [replay, List.foldlM_cons]
    simp only [step, saving?_withSaving, Option.bind_eq_bind, Option.bind_some]
    rfl
  · rw [conclude, drop_withSaving ho]
    exact ⟨rfl, rfl, rfl⟩

/-- A saving that has written the settings is over. -/
theorem settles_done (ho : o.IsNumbered) (m : Settings) :
    Settles (o.withSaving d .done (.settings m) notice) o (notice.elim d d.pass) := by
  refine ⟨[.goOn o.fresh], (o.withSaving d .done (.settings m) notice).conclude
    ⟨o.fresh, .settings m, .done, notice⟩, by simp [Happening.isOfSaving], ?_, ?_⟩
  · rw [replay, List.foldlM_cons]
    simp only [step, saving?_withSaving, Option.bind_eq_bind, Option.bind_some]
    rfl
  · rw [conclude, drop_withSaving ho]
    exact ⟨rfl, rfl, rfl⟩

/-! ## A saving -/

theorem settles_beginSettings (ho : o.IsNumbered) (notice : Option Notice) :
    Settles (o.beginSettings notice) o
      (notice.elim o.desk.writeSettings.1 o.desk.writeSettings.1.pass) := by
  refine Settles.step ?_ rfl (step_land ho)
  show Settles _ o (notice.elim (o.desk.write (.settings o.desk.settings)).1 _)
  cases (o.desk.write (.settings o.desk.settings)).2 with
  | ok => exact settles_done ho _
  | error e => exact settles_failed ho e

/-- **`settles_beginSave`** — a saving that nothing comes between saves everything in one go. -/
theorem settles_beginSave (ho : o.IsNumbered) (notice : Option Notice) :
    Settles (o.beginSave notice) o
      (notice.elim (o.desk.save o.census.inventory).1 (o.desk.save o.census.inventory).1.pass) := by
  refine Settles.step ?_ rfl (step_land ho)
  unfold Desk.save
  rcases o.desk.write (.devices o.census.inventory.toList) with ⟨d, e | ⟨⟩⟩
  · exact settles_failed ho _
  · -- The settings come second, with the number after that of the devices.
    let b : Operation := { o with desk := d, fresh := o.fresh + 1 }
    have hb : b.IsNumbered := ⟨fun u hu => Nat.lt_succ_of_lt (ho.below u hu), ho.distinct⟩
    have hsettings : Settles (b.beginSettings notice) o
        (notice.elim d.writeSettings.1 d.writeSettings.1.pass) := settles_beginSettings hb notice
    refine hsettings.step (x := .goOn o.fresh) rfl ?_
    simp only [step, Standing.of, saving?_withSaving, Option.bind_eq_bind, Option.bind_some]
    rw [goOn]
    simp only [Desk.following, drop_withSaving ho]
    rfl

/-! ## What an office does -/

/-- **`settles_remove`** — a device is taken out as a request for it says. -/
theorem settles_remove (ho : o.IsNumbered) {text : String} {a : Address}
    (ha : Address.ofString? text = some a) :
    ∃ p, o.step (.remove a) = some p ∧
      Settles p { p with savings := o.savings } (o.toOffice.remove text).1.desk ∧
      p.census = (o.toOffice.remove text).1.census := by
  refine ⟨_, rfl, ?_⟩
  simp only [remove, Office.remove, ha]
  split
  · exact ⟨⟨[], o, List.forall_mem_nil _, rfl, rfl, rfl, rfl⟩, rfl⟩
  · exact ⟨settles_beginSave (o := o.hear (o.census.remove a)) (ho.congr rfl rfl) none, rfl⟩

/-- **`settles_receive`** — a notice is forwarded. -/
theorem settles_receive (ho : o.IsNumbered) {k : Channel} {n : Notice} (hattending : o.attending = false)
    (hn : o.waiting.find? (Channel.of · = k) = some n) :
    ∃ p, o.step (.receive k) = some p ∧
      Settles p { o with waiting := p.waiting } (o.desk.forward o.census.inventory n) := by
  refine ⟨_, by simp only [step, hattending, hn]; rfl, ?_⟩
  let b : Operation := { o with waiting := o.waiting.eraseP (Channel.of · = k) }
  have hb : b.IsNumbered := ho.congr rfl rfl
  show Settles (b.receive n) { o with waiting := (b.receive n).waiting } _
  cases n with
  | schedule n =>
      cases n with
      | sweepCompleted t =>
          exact settles_beginSave (o := b.note lastSweepName t.textToSecond) (hb.congr rfl rfl) (some _)
      | _ => exact ⟨[], _, List.forall_mem_nil _, rfl, rfl, rfl, rfl⟩
  | _ => exact ⟨[], _, List.forall_mem_nil _, rfl, rfl, rfl, rfl⟩

/-- **`settles_answer`** — a lookup that has found something is answered. -/
theorem settles_answer (ho : o.IsNumbered) {id : Nat} {l : Lookup} {out : Outcome} {d : Device}
    (hl : o.census.lookup? id = some l) (hd : Census.Lookup.result l o.census.now out = some d) :
    ∃ p, o.step (.answer id out) = some p ∧ p.census = o.census.endLookup l out ∧
      Settles p { p with savings := o.savings } (o.toOffice.probed d).1.desk := by
  refine ⟨o.answer l out, by rw [step, hl]; rfl, ?_⟩
  rw [answer, hd]
  exact ⟨rfl, settles_beginSettings (o := (o.hear _).note _ _) (ho.congr rfl rfl) none⟩

end Operation

end LanCensus.Service
