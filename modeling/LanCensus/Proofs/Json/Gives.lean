/-
# LanCensus.Proofs.Json.Gives -- what a reader can give

Whatever a text holds, a reader gives values of certain kinds only (`Gives`). A list has the kind of its
items, and a record what its draft keeps from field to field, in whatever order they come.
-/

import LanCensus.Json.Record

namespace LanCensus.Json

/-- **`Gives r P`** — whatever the reader gives is of kind `P`. -/
def Gives {α : Type} (r : Reader α) (P : α → Prop) : Prop := ∀ s x rest, r s = .ok (x, rest) → P x

section Gives

variable {α σ : Type} {P : α → Prop} {Q : σ → Prop}

theorem bind_eq_ok {ε α β : Type} {x : Except ε α} {f : α → Except ε β} {b : β}
    (h : x.bind f = .ok b) : ∃ a, x = .ok a ∧ f a = .ok b := by
  cases x with
  | error e => cases h
  | ok a => exact ⟨a, rfl, h⟩

theorem bind_eq_ok_iff {ε α β : Type} {x : Except ε α} {f : α → Except ε β} {b : β} :
    x.bind f = .ok b ↔ ∃ a, x = .ok a ∧ f a = .ok b := by
  constructor
  · exact bind_eq_ok
  · rintro ⟨a, rfl, h⟩
    exact h

theorem gives_any (r : Reader α) : Gives r fun _ => True := fun _ _ _ _ => trivial

theorem gives_meaning {f : String → Option α} (h : ∀ text x, f text = some x → P x) :
    Gives (readMeaning f) P := by
  intro s x rest hread
  obtain ⟨⟨text, s⟩, -, hread⟩ := bind_eq_ok hread
  dsimp only at hread
  split at hread
  · next hf =>
    cases hread
    exact h text x hf
  · cases hread

/-- A list of what the reader gives. -/
theorem gives_list {r : Reader α} (h : Gives r P) : Gives (readList r) fun xs => ∀ x ∈ xs, P x := by
  have hfrom : ∀ fuel first, Gives (readListFrom r fuel first) fun xs => ∀ x ∈ xs, P x := by
    intro fuel
    induction fuel with
    | zero => exact fun _ _ _ _ hread => nomatch hread
    | succ fuel ih =>
        intro first s xs rest hread
        obtain ⟨next, -, hread⟩ := bind_eq_ok hread
        cases next with
        | none =>
            cases hread
            exact fun _ hx => nomatch hx
        | some s =>
            obtain ⟨⟨x, s⟩, hx, hread⟩ := bind_eq_ok hread
            obtain ⟨⟨xs, s⟩, hxs, hread⟩ := bind_eq_ok hread
            cases hread
            exact List.forall_mem_cons.mpr ⟨h _ _ _ hx, ih false _ _ _ hxs⟩
  intro s xs rest hread
  unfold readList at hread
  split at hread
  · obtain ⟨⟨xs, s⟩, hxs, hread⟩ := bind_eq_ok hread
    obtain ⟨_, -, hread⟩ := bind_eq_ok hread
    cases hread
    exact hfrom _ _ _ _ _ hxs
  · cases hread

/-! ## Records -/

/-- **`Keeps fields Q`** — a draft of kind `Q` stays one, whatever field is read into it. -/
def Keeps (fields : List (Field σ)) (Q : σ → Prop) : Prop :=
  ∀ field ∈ fields, ∀ draft, Q draft → Gives (field.read draft) Q

theorem Keeps.readMember {fields : List (Field σ)} (h : Keeps fields Q) (name : String) {draft : σ}
    (hd : Q draft) : Gives (readMember fields name draft) Q := by
  intro s e rest hread
  unfold Json.readMember at hread
  split at hread
  · next field hfield =>
    split at hread
    · cases hread
    · obtain ⟨s, -, hread⟩ := bind_eq_ok hread
      exact h field (List.mem_of_find?_eq_some hfield) draft hd _ _ _ hread
  · obtain ⟨_, -, hread⟩ := bind_eq_ok hread
    obtain ⟨_, -, hread⟩ := bind_eq_ok hread
    cases hread
    exact hd

theorem Keeps.readMembers {fields : List (Field σ)} (h : Keeps fields Q) (fuel : Nat) :
    ∀ first draft, Q draft → Gives (readMembers fields fuel first draft) Q := by
  induction fuel with
  | zero => exact fun _ _ _ _ _ _ hread => nomatch hread
  | succ fuel ih =>
      intro first draft hd s e rest hread
      obtain ⟨next, -, hread⟩ := bind_eq_ok hread
      cases next with
      | none =>
          cases hread
          exact hd
      | some s =>
          obtain ⟨⟨name, s⟩, -, hread⟩ := bind_eq_ok hread
          obtain ⟨⟨draft, s⟩, hmember, hread⟩ := bind_eq_ok hread
          exact ih false draft (h.readMember name hd _ _ _ hmember) _ _ _ hread

theorem Keeps.readItems {fields : List (Field σ)} (h : Keeps fields Q) :
    ∀ first draft, Q draft → Gives (readItems fields first draft) Q := by
  induction fields with
  | nil =>
      intro first draft hd s e rest hread
      cases hread
      exact hd
  | cons field fields ih =>
      intro first draft hd s e rest hread
      obtain ⟨hfield, hmore⟩ := List.forall_mem_cons.mp h
      obtain ⟨next, -, hread⟩ := bind_eq_ok hread
      cases next with
      | none =>
          dsimp only at hread
          split at hread
          · cases hread
          · exact ih hmore first draft hd _ _ _ hread
      | some s =>
          obtain ⟨⟨draft, s⟩, hitem, hread⟩ := bind_eq_ok hread
          exact ih hmore false draft (hfield _ hd _ _ _ hitem) _ _ _ hread

/-- **`gives_record`** — what is kept from field to field holds of the draft that makes the record. -/
theorem gives_record {fields : List (Field σ)} {draft : σ} {finish : σ → Option α}
    (h : Keeps fields Q) (hd : Q draft) (hfinish : ∀ e x, Q e → finish e = some x → P x) :
    Gives (readRecord fields draft finish) P := by
  intro s x rest hread
  unfold readRecord at hread
  split at hread
  · obtain ⟨⟨e, s⟩, hmembers, hread⟩ := bind_eq_ok hread
    dsimp only at hread
    split at hread
    · cases hread
    · next hx =>
      obtain ⟨_, -, hread⟩ := bind_eq_ok hread
      cases hread
      exact hfinish e _ (h.readMembers _ _ _ hd _ _ _ hmembers) hx
  · obtain ⟨⟨e, s⟩, hitems, hread⟩ := bind_eq_ok hread
    dsimp only at hread
    split at hread
    · cases hread
    · next hx =>
      obtain ⟨_, -, hread⟩ := bind_eq_ok hread
      cases hread
      exact hfinish e _ (h.readItems _ _ hd _ _ _ hitems) hx
  · cases hread

/-- A text that was read as a whole. -/
theorem of_readWhole {r : Reader α} (h : Gives r P) {s : String} {x : α}
    (hread : readWhole r s = .ok x) : P x := by
  obtain ⟨⟨x, rest⟩, hx, hread⟩ := bind_eq_ok hread
  dsimp only at hread
  split at hread
  · cases hread
    exact h _ _ _ hx
  · cases hread

end Gives

end LanCensus.Json
