/-
# LanCensus.Proofs.Json.Members -- the members of an object, in any order

An object text lists its members, each of them a name and the text of a value, with blanks wherever JSON
allows them (`IsObject`). A record is read from it exactly if every member is taken in its turn (`Takes`): a
name that the record knows gives it a field that it does not have yet, and any other name is passed over
with its value. `readRecord_eq_ok_iff` says that this is all that decides.
-/

import LanCensus.Proofs.Json.Decoding
import Mathlib.Data.List.TakeWhile

namespace LanCensus.Json

/-! ## Objects and their members -/

/-- **`Member`** — a member of an object: its name, and the text of its value. -/
abbrev Member := String × List Char

/-- **`IsMember m s`** — the text writes the member. Its name may be spelled in any way; half a surrogate pair
spells no name, though it may stand in the value. -/
inductive IsMember : Member → List Char → Prop where
  | mk {name : String} {b n b' c v c' : List Char} : AreBlanks b → Spells n name.toList → AreBlanks b' →
    AreBlanks c → Forms .value v → AreBlanks c' →
    IsMember (name, v) (b ++ '"' :: (n ++ '"' :: (b' ++ ':' :: (c ++ (v ++ c')))))

/-- **`AreMembers ms s`** — the text writes the members, with commas between them. -/
inductive AreMembers : List Member → List Char → Prop where
  | last {m : Member} {s : List Char} : IsMember m s → AreMembers [m] s
  | more {m : Member} {ms : List Member} {s t : List Char} :
    IsMember m s → AreMembers ms t → AreMembers (m :: ms) (s ++ ',' :: t)

/-- **`IsObject ms w`** — the text is an object with the members. -/
inductive IsObject : List Member → List Char → Prop where
  | empty {b : List Char} : AreBlanks b → IsObject [] ('\x7b' :: (b ++ ['\x7d']))
  | members {ms : List Member} {s : List Char} : AreMembers ms s →
    IsObject ms ('\x7b' :: (s ++ ['\x7d']))

/-- The names of members. -/
def names (ms : List Member) : List String := ms.map Prod.fst

@[simp]
theorem names_nil : names [] = [] := rfl

@[simp]
theorem names_cons (m : Member) (ms : List Member) :
    names (m :: ms) = m.1 :: names ms := rfl

/-- An object is a value. -/
theorem IsObject.forms {ms : List Member} {w : List Char} (h : IsObject ms w) :
    Forms .value w := by
  have hmember : ∀ {m s}, IsMember m s → Forms .member s := by
    rintro _ _ ⟨hb, hn, hb', hc, hv, hc'⟩
    exact .member hb hn.isBody hb' (.element hc hv hc')
  cases h with
  | empty hb => exact .noMembers hb
  | members hms =>
      refine .object ?_
      induction hms with
      | last hm => exact .lastMember (hmember hm)
      | more hm _ ih => exact .moreMembers (hmember hm) ih

/-- Every member takes up room. -/
theorem AreMembers.length_lt {ms : List Member} {s : List Char} (h : AreMembers ms s) :
    ms.length < s.length := by
  have hmember : ∀ {m s}, IsMember m s → 1 < s.length := by
    rintro _ _ ⟨⟩
    simp only [List.length_append, List.length_cons]
    omega
  induction h with
  | last hm => exact hmember hm
  | more hm _ ih =>
      have := hmember hm
      simp only [List.length_append, List.length_cons]
      omega

/-! ## What a record takes from them -/

section Records

variable {σ α : Type} {fields : List (Field σ)} {values : Field σ → σ → List Char → σ → Prop}

/-- **`TakesMember fields values d m e`** — the member takes the draft from `d` to `e`. -/
inductive TakesMember (fields : List (Field σ)) (values : Field σ → σ → List Char → σ → Prop) (d : σ) :
    Member → σ → Prop where
  | known {name : String} {v : List Char} {field : Field σ} {e : σ} :
    fields.find? (·.name == name) = some field → field.given d = false → values field d v e →
    TakesMember fields values d (name, v) e
  | foreign {name : String} {v : List Char} : fields.find? (·.name == name) = none →
    TakesMember fields values d (name, v) d

/-- **`Takes fields values d ms e`** — the members take the draft from `d` to `e`. -/
inductive Takes (fields : List (Field σ)) (values : Field σ → σ → List Char → σ → Prop) :
    σ → List Member → σ → Prop where
  | done (d : σ) : Takes fields values d [] d
  | more {d e g : σ} {m : Member} {ms : List Member} :
    TakesMember fields values d m e → Takes fields values e ms g → Takes fields values d (m :: ms) g

/-- What the fields of a record make of values. -/
def FieldsDecode (fields : List (Field σ)) (values : Field σ → σ → List Char → σ → Prop) : Prop :=
  ∀ field ∈ fields, ∀ d, Decodes (field.read d) (values field d)

theorem takesMember_known {name : String} {field : Field σ}
    (h : fields.find? (·.name == name) = some field) {d e : σ} {v : List Char} :
    TakesMember fields values d (name, v) e ↔ field.given d = false ∧ values field d v e := by
  constructor
  · intro htakes
    cases htakes with
    | known hfield hgiven hvalue =>
        obtain rfl := Option.some.inj (h.symm.trans hfield)
        exact ⟨hgiven, hvalue⟩
    | foreign hfield => cases h.symm.trans hfield
  · rintro ⟨hgiven, hvalue⟩
    exact .known h hgiven hvalue

theorem takesMember_foreign {name : String} (h : fields.find? (·.name == name) = none) {d e : σ}
    {v : List Char} : TakesMember fields values d (name, v) e ↔ e = d := by
  constructor
  · intro htakes
    cases htakes with
    | known hfield => cases h.symm.trans hfield
    | foreign => rfl
  · rintro rfl
    exact .foreign h

/-- **`readMember_eq_ok_iff`** — a member is read exactly as it is taken. -/
theorem readMember_eq_ok_iff (h : FieldsDecode fields values) {name : String} {d e : σ}
    {b c v rest after : List Char} (hb : AreBlanks b) (hc : AreBlanks c) (hv : Forms .value v)
    (hrest : Ends rest) :
    readMember fields name d (b ++ ':' :: (c ++ (v ++ rest))) = .ok (e, after) ↔
      TakesMember fields values d (name, v) e ∧ after = rest := by
  have hcolon := close_blanks hb (show isSpace ':' = false from rfl) (c ++ (v ++ rest))
  cases hfield : fields.find? (·.name == name) with
  | some field =>
      have hdecodes : field.read d (c ++ (v ++ rest)) = .ok (e, after) ↔
          values field d v e ∧ after = rest :=
        h field (List.mem_of_find?_eq_some hfield) d hv hc hrest
      rw [takesMember_known hfield, and_assoc, ← hdecodes]
      simp only [readMember, hfield, hcolon, bind, Except.bind]
      cases field.given d with
      | true =>
          constructor
          · rintro ⟨⟩
          · rintro ⟨⟨⟩, -⟩
      | false => exact ⟨fun hread => ⟨rfl, hread⟩, fun hread => hread.2⟩
  | none =>
      rw [takesMember_foreign hfield]
      simp only [readMember, hfield, hcolon, skipValue_append hv hc hrest, bind, Except.bind, pure,
        Except.pure, Except.ok.injEq, Prod.mk.injEq]
      rw [eq_comm (a := d), eq_comm (a := rest)]

/-- **`Leads first lead`** — what stands before a member: nothing if it is the first one, else the comma
behind the last one. -/
inductive Leads : Bool → List Char → Prop where
  | first : Leads true []
  | more {b : List Char} : AreBlanks b → Leads false (b ++ [','])

/-- The next member is found behind what leads to it. -/
theorem Leads.nextMember {first : Bool} {lead : List Char} (h : Leads first lead) {b : List Char}
    (hb : AreBlanks b) (s : List Char) :
    nextMember first (lead ++ (b ++ '"' :: s)) = .ok (some s) := by
  have hquote : skipSpace (b ++ '"' :: s) = '"' :: s := by
    rw [skipSpace_append hb, skipSpace_cons (by decide)]
  cases h with
  | first =>
      rw [List.nil_append, Json.nextMember, hquote]
      rfl
  | more hlead =>
      rw [List.append_assoc, Json.nextMember, skipSpace_append hlead, List.singleton_append,
        skipSpace_cons (by decide)]
      simp [hquote]

/-- A member is read, and what follows it is read with what the member made of the draft. -/
theorem readMembers_member (h : FieldsDecode fields values) {m : Member} {s : List Char}
    (hm : IsMember m s) :
    ∃ b, AreBlanks b ∧ ∀ {fuel first lead d g rest after}, Leads first lead → Ends rest →
      (readMembers fields (fuel + 1) first d (lead ++ (s ++ rest)) = .ok (g, after) ↔
        ∃ e, TakesMember fields values d m e ∧
          readMembers fields fuel false e (b ++ rest) = .ok (g, after)) := by
  cases hm with
  | @mk name b n b' c v c' hb hn hb' hc hv hc' =>
      refine ⟨c', hc', fun {fuel first lead d g rest after} hlead hrest => ?_⟩
      have hmember : ∀ e left, readMember fields name d (b' ++ ':' :: (c ++ (v ++ (c' ++ rest)))) =
          .ok (e, left) ↔ TakesMember fields values d (name, v) e ∧ left = c' ++ rest := fun e left =>
        readMember_eq_ok_iff h hb' hc hv (hrest.blanks_append hc')
      have hstep : readMembers fields (fuel + 1) first d
          (lead ++ (b ++ '"' :: (n ++ '"' :: (b' ++ ':' :: (c ++ (v ++ (c' ++ rest))))))) =
          (readMember fields name d (b' ++ ':' :: (c ++ (v ++ (c' ++ rest))))).bind
            fun found => readMembers fields fuel false found.1 found.2 := by
        simp only [readMembers, hlead.nextMember hb, memberName, stringBody_spelled hn,
          String.ofList_toList, bind, Except.bind, pure, Except.pure]
      simp only [List.append_assoc, List.cons_append]
      rw [hstep, bind_eq_ok_iff]
      constructor
      · rintro ⟨⟨e, left⟩, hread, hmore⟩
        obtain ⟨htakes, rfl⟩ := (hmember e left).mp hread
        exact ⟨e, htakes, hmore⟩
      · rintro ⟨e, htakes, hmore⟩
        exact ⟨(e, c' ++ rest), (hmember e _).mpr ⟨htakes, rfl⟩, hmore⟩

/-- **`readMembers_eq_ok_iff`** — members are read exactly as they are taken, and the blanks behind the last
one are left. -/
theorem readMembers_eq_ok_iff (h : FieldsDecode fields values) {ms : List Member}
    {s : List Char} (hs : AreMembers ms s) :
    ∃ b, AreBlanks b ∧ ∀ {fuel first lead d g rest after}, Leads first lead → ms.length < fuel →
      (readMembers fields fuel first d (lead ++ (s ++ '\x7d' :: rest)) = .ok (g, after) ↔
        Takes fields values d ms g ∧ after = b ++ '\x7d' :: rest) := by
  induction hs with
  | @last m s hm =>
      obtain ⟨b, hb, hmember⟩ := readMembers_member h hm
      refine ⟨b, hb, fun {fuel first lead d g rest after} hlead hfuel => ?_⟩
      obtain ⟨fuel, rfl⟩ := Nat.exists_eq_add_of_le' (show 2 ≤ fuel from hfuel)
      have hend : ∀ e, readMembers fields (fuel + 1) false e (b ++ '\x7d' :: rest) =
          .ok (e, b ++ '\x7d' :: rest) := by
        intro e
        rw [readMembers, nextMember_blanks hb]
        rfl
      rw [hmember hlead (ends_cons (.inr (.inr rfl)) rest)]
      constructor
      · rintro ⟨e, htakes, hread⟩
        cases (hend e).symm.trans hread
        exact ⟨.more htakes (.done g), rfl⟩
      · rintro ⟨htakes, rfl⟩
        cases htakes with
        | more htakes hdone =>
            cases hdone
            exact ⟨g, htakes, hend g⟩
  | @more m ms s t hm hms ih =>
      obtain ⟨c, hc, hmember⟩ := readMembers_member h hm
      obtain ⟨b, hb, hmore⟩ := ih
      refine ⟨b, hb, fun {fuel first lead d g rest after} hlead hfuel => ?_⟩
      obtain ⟨fuel, rfl⟩ := Nat.exists_eq_add_one.mpr (Nat.zero_lt_of_lt hfuel)
      have htail : ∀ e, readMembers fields fuel false e (c ++ ',' :: (t ++ '\x7d' :: rest)) =
          .ok (g, after) ↔ Takes fields values e ms g ∧ after = b ++ '\x7d' :: rest := by
        intro e
        rw [← hmore (.more hc) (Nat.lt_of_succ_lt_succ hfuel), List.append_assoc,
          List.singleton_append]
      rw [List.append_assoc, List.cons_append, hmember hlead (ends_comma _)]
      constructor
      · rintro ⟨e, htakes, hread⟩
        obtain ⟨hmore, hafter⟩ := (htail e).mp hread
        exact ⟨.more htakes hmore, hafter⟩
      · rintro ⟨htakes, hafter⟩
        cases htakes with
        | more htakes hmore => exact ⟨_, htakes, (htail _).mpr ⟨hmore, hafter⟩⟩

/-! ## Records -/

/-- What is read between the braces decides, whatever blanks stand before the closing one. -/
theorem readRecord_braces {s b c rest after : List Char} (hb : AreBlanks b) (hc : AreBlanks c) {d : σ}
    {P : σ → Prop} (h : ∀ {e left},
      readMembers fields ((s ++ '\x7d' :: rest).length + 1) true d (s ++ '\x7d' :: rest) = .ok (e, left) ↔
        P e ∧ left = c ++ '\x7d' :: rest) {finish : σ → Option α} {x : α} :
    readRecord fields d finish (b ++ '\x7b' :: (s ++ '\x7d' :: rest)) = .ok (x, after) ↔
      (∃ e, P e ∧ finish e = some x) ∧ after = rest := by
  have hclose := close_blanks hc (show isSpace '\x7d' = false from rfl) rest
  rw [readRecord, skipSpace_append hb, skipSpace_cons (by decide)]
  constructor
  · intro hread
    obtain ⟨⟨e, left⟩, hmembers, hmade⟩ := bind_eq_ok hread
    obtain ⟨he, rfl⟩ := h.mp hmembers
    dsimp only at hmade
    split at hmade
    · cases hmade
    · next y hfinish =>
      rw [hclose] at hmade
      cases hmade
      exact ⟨⟨e, he, hfinish⟩, rfl⟩
  · rintro ⟨⟨e, he, hfinish⟩, rfl⟩
    simp only [h.mpr ⟨he, rfl⟩, hfinish, hclose, bind, Except.bind, pure, Except.pure]

/-- **`readRecord_eq_ok_iff`** — a record is read from an object exactly if the members are taken and what
they leave makes it; what follows the object is left. -/
theorem readRecord_eq_ok_iff (h : FieldsDecode fields values) {ms : List Member}
    {w b rest after : List Char} (hw : IsObject ms w) (hb : AreBlanks b) {d : σ} {finish : σ → Option α}
    {x : α} :
    readRecord fields d finish (b ++ (w ++ rest)) = .ok (x, after) ↔
      (∃ e, Takes fields values d ms e ∧ finish e = some x) ∧ after = rest := by
  cases hw with
  | @empty c hc =>
      rw [List.cons_append, List.append_assoc, List.singleton_append]
      apply readRecord_braces hb hc
      intro e left
      rw [readMembers, nextMember_blanks hc]
      constructor
      · rintro ⟨⟩
        exact ⟨.done d, rfl⟩
      · rintro ⟨htakes, rfl⟩
        cases htakes
        rfl
  | @members _ s hs =>
      obtain ⟨c, hc, hmembers⟩ := readMembers_eq_ok_iff h hs
      have hlength := hs.length_lt
      rw [List.cons_append, List.append_assoc, List.singleton_append]
      apply readRecord_braces hb hc
      intro e left
      apply hmembers .first
      rw [List.length_append]
      omega

/-- **`readWhole_eq_ok_iff`** — a text is read as a whole if nothing but blanks is left. -/
theorem readWhole_eq_ok_iff {r : Reader α} {s : List Char} {x : α} :
    readWhole r (String.ofList s) = .ok x ↔ ∃ rest, r s = .ok (x, rest) ∧ AreBlanks rest := by
  have hblanks : ∀ rest, (skipSpace rest).isEmpty = true ↔ AreBlanks rest := fun rest => by
    rw [List.isEmpty_iff, skipSpace, List.dropWhile_eq_nil_iff]
    rfl
  constructor
  · intro hread
    obtain ⟨⟨y, rest⟩, hy, hrest⟩ := bind_eq_ok hread
    rw [String.toList_ofList] at hy
    dsimp only at hrest
    split at hrest
    · next hempty =>
      cases hrest
      exact ⟨rest, hy, (hblanks rest).mp hempty⟩
    · cases hrest
  · rintro ⟨rest, hread, hrest⟩
    rw [readWhole, String.toList_ofList, hread]
    simp only [bind, Except.bind, (hblanks rest).mpr hrest, if_true, pure, Except.pure]

end Records

end LanCensus.Json
