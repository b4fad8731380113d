/-
# LanCensus.Proofs.Device.Tolerance -- which objects are read as a device

An object describes a device if every member with the name of a field says what is so of the device, no
field is given twice, and a field that is left out has its default (`Describes`). The order of the members,
the blanks, the spelling of texts, and members of other names do not matter. A text is read as a device
exactly if it is an object that describes it, with nothing but blanks behind it.
-/

import LanCensus.Proofs.Device.Key

namespace LanCensus.Device

/-! ## Objects that describe a device -/

namespace Key

/-- **`IsOf k d x`** — the device has the value in the field. -/
def IsOf : (k : Key) → Device → k.Value → Prop
  | address, d, x => x = d.address
  | name, d, x => x = d.name
  | kind, d, x => x = d.kind
  | mac, d, x => x = d.mac
  | online, d, x => x = d.online
  | lastSeen, d, x => x = d.lastSeen
  | responseTime, d, x => Span.ofMillis x = d.responseTime

/-- **`IsDefault k d`** — the field has a default, and the device has it. -/
def IsDefault : Key → Device → Prop
  | address, _ => False
  | name, _ => False
  | kind, d => d.kind = unknown
  | mac, d => d.mac = unknown
  | online, d => d.online = false
  | lastSeen, _ => False
  | responseTime, d => d.responseTime = .ofMillis 0

/-- **`Tells k d v`** — as the text of the field's value, `v` says what the device has there. -/
def Tells (k : Key) (d : Device) (v : List Char) : Prop := ∃ x, k.Says v x ∧ k.IsOf d x

end Key

/-- **`Describes ms d`** — an object with the members describes the device. -/
structure Describes (ms : List Json.Member) (d : Device) : Prop where
  tells : ∀ k : Key, ∀ v, (k.text, v) ∈ ms → k.Tells d v
  once : ∀ k : Key, (Json.names ms).count k.text ≤ 1
  complete : ∀ k : Key, k.text ∈ Json.names ms ∨ k.IsDefault d

/-! ## Drafts -/

/-- **`IsOf r d`** — what the draft holds is so of the device. -/
def Draft.IsOf (r : Draft) (d : Device) : Prop := ∀ (k : Key) x, k.get r = some x → k.IsOf d x

theorem Draft.isOf_blank (d : Device) : Draft.blank.IsOf d := by
  intro k x hx
  rw [Key.get_blank] at hx
  cases hx

/-- A value that is put into a draft is so of the device, and so is the rest. -/
theorem Draft.isOf_put_iff {k : Key} {r : Draft} {d : Device} {x : k.Value} (h : k.get r = none) :
    (k.put r x).IsOf d ↔ r.IsOf d ∧ k.IsOf d x := by
  constructor
  · intro hput
    refine ⟨fun j y hy => ?_, hput k x (k.get_put r x)⟩
    have hne : j ≠ k := by
      rintro rfl
      cases h.symm.trans hy
    exact hput j y ((Key.get_put_of_ne hne r x).trans hy)
  · rintro ⟨hr, hx⟩ j y hy
    by_cases hne : j = k
    · subst hne
      rw [Key.get_put] at hy
      cases hy
      exact hx
    · exact hr j y ((Key.get_put_of_ne hne r x).symm.trans hy)

/-- A value that is given is so, and one that is not given is the default. -/
theorem getD_eq {α β : Type} (f : α → β) {o : Option α} {x : α} {y : β}
    (hgiven : ∀ z, o = some z → f z = y) (hdefault : o.isSome ∨ f x = y) : f (o.getD x) = y := by
  cases o with
  | none => exact hdefault.resolve_left Bool.false_ne_true
  | some z => exact hgiven z rfl

/-- **`finish_eq_some_iff`** — a draft makes the device that it is true of, if what it lacks has its
default there. -/
theorem Draft.finish_eq_some_iff {r : Draft} {d : Device} :
    r.finish = some d ↔ r.IsOf d ∧ ∀ k : Key, (k.get r).isSome ∨ k.IsDefault d := by
  constructor
  · intro hfinish
    simp only [Draft.finish, Option.bind_eq_bind, Option.bind_eq_some_iff] at hfinish
    obtain ⟨a, ha, n, hn, t, ht, hd⟩ := hfinish
    cases hd
    refine ⟨fun k x hx => ?_, fun k => ?_⟩
    · cases k with
      | address => exact Option.some.inj (hx.symm.trans ha)
      | name => exact Option.some.inj (hx.symm.trans hn)
      | lastSeen => exact Option.some.inj (hx.symm.trans ht)
      | _ => simp only [Key.get] at hx; simp only [Key.IsOf, hx, Option.getD_some]
    · cases k with
      | address => exact .inl (by rw [Key.get, ha]; rfl)
      | name => exact .inl (by rw [Key.get, hn]; rfl)
      | lastSeen => exact .inl (by rw [Key.get, ht]; rfl)
      | kind => cases hk : r.kind <;> simp [Key.get, Key.IsDefault, hk]
      | mac => cases hk : r.mac <;> simp [Key.get, Key.IsDefault, hk]
      | online => cases hk : r.online <;> simp [Key.get, Key.IsDefault, hk]
      | responseTime => cases hk : r.responseMillis <;> simp [Key.get, Key.IsDefault, hk]
  · rintro ⟨hd, hdefault⟩
    -- A field without a default is given.
    have hneeded : ∀ k : Key, ¬ k.IsDefault d → ∃ x, k.get r = some x ∧ k.IsOf d x := by
      intro k hk
      obtain ⟨x, hx⟩ := Option.isSome_iff_exists.mp ((hdefault k).resolve_right hk)
      exact ⟨x, hx, hd k x hx⟩
    obtain ⟨a, ha, haddress⟩ := hneeded .address id
    obtain ⟨n, hn, hname⟩ := hneeded .name id
    obtain ⟨t, ht, hseen⟩ := hneeded .lastSeen id
    have hkind : r.kind.getD unknown = d.kind :=
      getD_eq id (fun x hx => hd .kind x hx) ((hdefault .kind).imp_right Eq.symm)
    have hmac : r.mac.getD unknown = d.mac :=
      getD_eq id (fun x hx => hd .mac x hx) ((hdefault .mac).imp_right Eq.symm)
    have honline : r.online.getD false = d.online :=
      getD_eq id (fun x hx => hd .online x hx) ((hdefault .online).imp_right Eq.symm)
    have htime : Span.ofMillis (r.responseMillis.getD 0) = d.responseTime :=
      getD_eq Span.ofMillis (fun x hx => hd .responseTime x hx) ((hdefault .responseTime).imp_right Eq.symm)
    simp only [Key.get] at ha hn ht
    simp only [Key.IsOf] at haddress hname hseen
    simp only [finish, ha, hn, ht, hkind, hmac, honline, htime, haddress, hname, hseen, bind,
      Option.bind, pure]

/-! ## Taking members -/

/-- The members are taken from one draft to another. -/
abbrev Taken : Draft → List Json.Member → Draft → Prop := Json.Takes fields Key.Stores

/-- A member of a field is taken if the draft lacks the field and the text says a value. -/
theorem takesMember_text {k : Key} {r e : Draft} {v : List Char} :
    Json.TakesMember fields Key.Stores r (k.text, v) e ↔
      k.get r = none ∧ ∃ x, k.Says v x ∧ e = k.put r x := by
  rw [Json.takesMember_known k.find?_text, Key.stores_iff]
  refine and_congr_left' ?_
  show (k.get r).isSome = false ↔ _
  rw [Option.isSome_eq_false_iff, Option.isNone_iff_eq_none]

/-- What is taken, whatever it is: a field that was lacking, or nothing. -/
theorem takesMember_cases {m : Json.Member} {r e : Draft}
    (h : Json.TakesMember fields Key.Stores r m e) :
    (∃ (k : Key) (x : k.Value), m.1 = k.text ∧ k.get r = none ∧ k.Says m.2 x ∧ e = k.put r x) ∨
      (∀ k : Key, m.1 ≠ k.text) ∧ e = r := by
  obtain ⟨name, v⟩ := m
  by_cases hname : ∃ k : Key, name = k.text
  · obtain ⟨k, rfl⟩ := hname
    obtain ⟨hget, x, hsaid, he⟩ := takesMember_text.mp h
    exact .inl ⟨k, x, rfl, hget, hsaid, he⟩
  · rw [not_exists] at hname
    exact .inr ⟨hname, (Json.takesMember_foreign (Key.find?_foreign hname)).mp h⟩

/-- **`given_of_taken`** — a field is given in the end if it was in the beginning, or by a member. -/
theorem given_of_taken {r e : Draft} {ms : List Json.Member} (h : Taken r ms e) (k : Key) :
    (k.get e).isSome ↔ (k.get r).isSome ∨ k.text ∈ Json.names ms := by
  induction h with
  | done r => simp
  | @more r e g m ms htakes _ ih =>
      rw [ih, Json.names_cons, List.mem_cons]
      rcases takesMember_cases htakes with ⟨j, x, hname, hget, -, rfl⟩ | ⟨hname, rfl⟩
      · rw [hname]
        by_cases hk : k = j
        · subst hk
          simp
        · rw [Key.get_put_of_ne hk, or_iff_right fun h => hk (Key.text_inj h)]
      · rw [or_iff_right (hname k).symm]

/-- **`once_of_taken`** — a field is given once at most. -/
theorem once_of_taken {r e : Draft} {ms : List Json.Member} (h : Taken r ms e) (k : Key) :
    (Json.names ms).count k.text ≤ 1 ∧ ((k.get r).isSome → k.text ∉ Json.names ms) := by
  induction h with
  | done r => simp
  | @more r e g m ms htakes _ ih =>
      obtain ⟨honce, hfresh⟩ := ih
      rw [Json.names_cons]
      rcases takesMember_cases htakes with ⟨j, x, hname, hget, -, rfl⟩ | ⟨hname, rfl⟩
      · rw [hname]
        by_cases hk : k = j
        · subst hk
          have hlast := hfresh (by rw [Key.get_put]; rfl)
          rw [List.count_cons_self, List.count_eq_zero_of_not_mem hlast, hget]
          exact ⟨Nat.le_refl 1, nofun⟩
        · have hne : j.text ≠ k.text := fun h => hk (Key.text_inj h).symm
          rw [Key.get_put_of_ne hk] at hfresh
          rw [List.count_cons_of_ne hne]
          exact ⟨honce, fun hgiven => List.not_mem_cons_of_ne_of_not_mem hne.symm (hfresh hgiven)⟩
      · rw [List.count_cons_of_ne (hname k)]
        exact ⟨honce, fun hgiven => List.not_mem_cons_of_ne_of_not_mem (hname k).symm (hfresh hgiven)⟩

/-- **`tells_of_taken`** — if the draft that the members leave is true of a device, then the one before them
is, and they tell what is so of the device. -/
theorem tells_of_taken {r e : Draft} {ms : List Json.Member} (h : Taken r ms e) {d : Device}
    (hd : e.IsOf d) : r.IsOf d ∧ ∀ k : Key, ∀ v, (k.text, v) ∈ ms → k.Tells d v := by
  induction h with
  | done r => exact ⟨hd, fun _ _ hv => nomatch hv⟩
  | @more r e g m ms htakes _ ih =>
      obtain ⟨he, hmore⟩ := ih hd
      rcases takesMember_cases htakes with ⟨j, x, hname, hget, hsaid, rfl⟩ | ⟨hname, rfl⟩
      · obtain ⟨hr, hx⟩ := (Draft.isOf_put_iff hget).mp he
        refine ⟨hr, fun k v hv => ?_⟩
        rcases List.mem_cons.mp hv with rfl | hv
        · obtain rfl := Key.text_inj hname
          exact ⟨x, hsaid, hx⟩
        · exact hmore k v hv
      · refine ⟨he, fun k v hv => ?_⟩
        rcases List.mem_cons.mp hv with rfl | hv
        · exact absurd rfl (hname k)
        · exact hmore k v hv

/-- **`exists_taken`** — members that tell what is so of a device are taken. -/
theorem exists_taken {ms : List Json.Member} {d : Device}
    (htells : ∀ k : Key, ∀ v, (k.text, v) ∈ ms → k.Tells d v)
    (honce : ∀ k : Key, (Json.names ms).count k.text ≤ 1) {r : Draft} (hr : r.IsOf d)
    (hfresh : ∀ k : Key, (k.get r).isSome → k.text ∉ Json.names ms) :
    ∃ e, Taken r ms e ∧ e.IsOf d := by
  induction ms generalizing r with
  | nil => exact ⟨r, .done r, hr⟩
  | cons m ms ih =>
      obtain ⟨name, v⟩ := m
      have htellsLater : ∀ k : Key, ∀ v, (k.text, v) ∈ ms → k.Tells d v := fun k v hv =>
        htells k v (List.mem_cons_of_mem _ hv)
      have honceLater : ∀ k : Key, (Json.names ms).count k.text ≤ 1 := fun k =>
        Nat.le_trans (List.Sublist.count_le _ (List.sublist_cons_self _ _)) (honce k)
      have hfreshLater : ∀ k : Key, (k.get r).isSome → k.text ∉ Json.names ms := fun k hgiven hmem =>
        hfresh k hgiven (List.mem_cons_of_mem _ hmem)
      by_cases hname : ∃ k : Key, name = k.text
      · obtain ⟨k, rfl⟩ := hname
        obtain ⟨x, hsaid, hx⟩ := htells k v List.mem_cons_self
        have hget : k.get r = none := by
          rw [← Option.isNone_iff_eq_none, ← Option.isSome_eq_false_iff, ← Bool.not_eq_true]
          exact fun hgiven => hfresh k hgiven List.mem_cons_self
        have hlast : k.text ∉ Json.names ms := by
          have := honce k
          rw [Json.names_cons, List.count_cons_self] at this
          exact List.count_eq_zero.mp (by omega)
        obtain ⟨e, htaken, he⟩ := ih htellsLater honceLater ((Draft.isOf_put_iff hget).mpr ⟨hr, hx⟩)
          fun j hgiven => by
            by_cases hj : j = k
            · rwa [hj]
            · rw [Key.get_put_of_ne hj] at hgiven
              exact hfreshLater j hgiven
        exact ⟨e, .more (takesMember_text.mpr ⟨hget, x, hsaid, rfl⟩) htaken, he⟩
      · rw [not_exists] at hname
        obtain ⟨e, htaken, he⟩ := ih htellsLater honceLater hr hfreshLater
        exact ⟨e, .more (.foreign (Key.find?_foreign hname)) htaken, he⟩

/-! ## Reading -/

section Reading

variable {ms : List Json.Member} {before w : List Char}

/-- **`ofText_eq_ok_iff`** — an object is read as the device that it describes, and as no other; a text is
read if nothing but blanks stands around the object. -/
theorem ofText_eq_ok_iff (hw : Json.IsObject ms w) (hbefore : Json.AreBlanks before) {after : List Char}
    {d : Device} :
    ofText (String.ofList (before ++ (w ++ after))) = .ok d ↔ Describes ms d ∧ Json.AreBlanks after := by
  rw [ofText, Json.readWhole_eq_ok_iff]
  have hrecord : ∀ rest, reader (before ++ (w ++ after)) = .ok (d, rest) ↔
      (∃ e, Taken .blank ms e ∧ e.finish = some d) ∧ rest = after := fun rest =>
    Json.readRecord_eq_ok_iff Key.fieldsDecode hw hbefore
  constructor
  · rintro ⟨rest, hread, hrest⟩
    obtain ⟨⟨e, htaken, hfinish⟩, rfl⟩ := (hrecord rest).mp hread
    obtain ⟨he, hcomplete⟩ := Draft.finish_eq_some_iff.mp hfinish
    refine ⟨⟨(tells_of_taken htaken he).2, fun k => (once_of_taken htaken k).1, fun k => ?_⟩, hrest⟩
    rcases hcomplete k with hgiven | hdefault
    · refine .inl (((given_of_taken htaken k).mp hgiven).resolve_left ?_)
      rw [Key.get_blank]
      exact Bool.false_ne_true
    · exact .inr hdefault
  · rintro ⟨⟨htells, honce, hcomplete⟩, hafter⟩
    obtain ⟨e, htaken, he⟩ := exists_taken htells honce (Draft.isOf_blank d) fun k hgiven => by
      rw [Key.get_blank] at hgiven
      cases hgiven
    have hfinish : e.finish = some d := Draft.finish_eq_some_iff.mpr
      ⟨he, fun k => (hcomplete k).imp_left fun hname => (given_of_taken htaken k).mpr (.inr hname)⟩
    exact ⟨after, (hrecord after).mpr ⟨⟨e, htaken, hfinish⟩, rfl⟩, hafter⟩

/-- **`ofText_tolerant`** — every object that describes a device is read as that device, in whatever order,
spelling and company its members stand. An object that lacks the address, the name or the time, or gives a
field twice, is not read, and neither is one with something other than blanks behind it. -/
theorem ofText_tolerant (hw : Json.IsObject ms w) (hbefore : Json.AreBlanks before)
    (after : List Char) :
    (∀ d, Describes ms d → Json.AreBlanks after →
      ofText (String.ofList (before ++ (w ++ after))) = .ok d) ∧
    ((∃ k ∈ [Key.address, .name, .lastSeen], k.text ∉ Json.names ms) ∨
        (∃ k : Key, 2 ≤ (Json.names ms).count k.text) ∨ ¬ Json.AreBlanks after →
      ∃ fault, ofText (String.ofList (before ++ (w ++ after))) = .error fault) := by
  refine ⟨fun d hd hafter => (ofText_eq_ok_iff hw hbefore).mpr ⟨hd, hafter⟩, fun hbad => ?_⟩
  cases hread : ofText (String.ofList (before ++ (w ++ after))) with
  | error fault => exact ⟨fault, rfl⟩
  | ok d =>
      obtain ⟨hd, hafter⟩ := (ofText_eq_ok_iff hw hbefore).mp hread
      rcases hbad with ⟨k, hk, hmissing⟩ | ⟨k, htwice⟩ | hmore
      · have hdefault := (hd.complete k).resolve_left hmissing
        simp only [List.mem_cons, List.not_mem_nil, or_false] at hk
        rcases hk with rfl | rfl | rfl <;> exact hdefault.elim
      · exact absurd (hd.once k) (Nat.not_le.mpr htwice)
      · exact absurd hafter hmore

end Reading

/-- The members of a record that was edited by hand: in an order of their own, with an escape in the name
and a member of another name, and without the fields that have their default. -/
def handwrittenMembers : List Json.Member := [
  ("last_seen", "\"2024-05-01T10:00:00+02:00\"".toList),
  ("colours", "[\x7b\"a\":[ ]\x7d, null]".toList),
  ("name", "\"N\\u0041S\"".toList),
  ("address", "\"192.168.1.7\"".toList)]

/-- The device that they describe. -/
def handwrittenDevice : Device := { fresh ⟨192, 168, 1, 7⟩ ⟨1714550400, 0⟩ with name := "NAS" }

/-- An object with these members. -/
def handwrittenText : List Char :=
  "\x7b \"last_seen\" : \"2024-05-01T10:00:00+02:00\",\n".toList ++
  "\"colours\":[\x7b\"a\":[ ]\x7d, null],".toList ++
  "\"name\":\"N\\u0041S\", \"address\":\"192.168.1.7\"\x7d".toList

theorem spells_nas : Json.Spells "N\\u0041S".toList "NAS".toList :=
  .cons (.plain (by decide))
    (.cons (.code (w := ['0', '0', '4', '1']) ⟨rfl, rfl⟩) (Json.spells_plain (s := ['S']) (by decide)))

theorem isObject_handwrittenText : Json.IsObject handwrittenMembers handwrittenText := by
  have hnone : Json.AreBlanks [] := by decide
  have hblank : Json.AreBlanks [' '] := by decide
  have hline : Json.AreBlanks ['\n'] := by decide
  have hname : ∀ s : String, s.toList.all Json.isPlain = true → Json.Spells s.toList s.toList :=
    fun _ hs => Json.spells_plain hs
  have hobject : Json.Forms .value "\x7b\"a\":[ ]\x7d".toList :=
    .object (.lastMember (.member hnone (Json.spells_plain (s := ['a']) (by decide)).isBody hnone
      (.element hnone (.noElements hblank) hnone)))
  have hcolours : Json.Forms .value "[\x7b\"a\":[ ]\x7d, null]".toList :=
    .array (.moreElements (.element hnone hobject hnone)
      (.lastElement (.element hblank .null hnone)))
  have hseen : Json.Forms .value "\"2024-05-01T10:00:00+02:00\"".toList :=
    Json.forms_plain (s := "2024-05-01T10:00:00+02:00".toList) (by decide)
  have haddress : Json.Forms .value "\"192.168.1.7\"".toList :=
    Json.forms_plain (s := "192.168.1.7".toList) (by decide)
  have hwritten : ∃ w, Json.IsObject handwrittenMembers w ∧ w = handwrittenText := by
    have h1 := Json.IsMember.mk hblank (hname "last_seen" (by decide)) hblank hblank hseen hnone
    have h2 := Json.IsMember.mk hline (hname "colours" (by decide)) hnone hnone hcolours hnone
    have h3 := Json.IsMember.mk hnone (hname "name" (by decide)) hnone hnone
      (.string spells_nas.isBody) hnone
    have h4 := Json.IsMember.mk hblank (hname "address" (by decide)) hnone hnone haddress hnone
    exact ⟨_, .members (.more h1 (.more h2 (.more h3 (.last h4)))), by decide +kernel⟩
  obtain ⟨w, hw, rfl⟩ := hwritten
  exact hw

theorem describes_handwrittenDevice : Describes handwrittenMembers handwrittenDevice where
  tells := by
    intro k v hv
    cases k
    all_goals
      simp only [handwrittenMembers, Key.text, List.mem_cons, Prod.mk.injEq, List.not_mem_nil, or_false,
        String.reduceEq, false_and, true_and, false_or] at hv
    all_goals subst hv
    · exact ⟨handwrittenDevice.address, ⟨"192.168.1.7", Json.isText_plain (by decide), by decide⟩, rfl⟩
    · exact ⟨"NAS", ⟨_, spells_nas, rfl⟩, rfl⟩
    · exact ⟨handwrittenDevice.lastSeen,
        ⟨"2024-05-01T10:00:00+02:00", Json.isText_plain (by decide), by decide⟩, rfl⟩
  once := by
    intro k
    cases k <;> decide
  complete := by
    intro k
    cases k
    case address | name | lastSeen => exact .inl (by decide)
    all_goals exact .inr rfl

/-- The record is read with a line feed behind it, but not with another brace behind it. -/
theorem handwritten_read :
    ofText (String.ofList (handwrittenText ++ ['\n'])) = .ok handwrittenDevice ∧
      ∃ fault, ofText (String.ofList (handwrittenText ++ ['\x7d'])) = .error fault := by
  have htext := fun after => ofText_tolerant isObject_handwrittenText (List.forall_mem_nil _) after
  simp only [List.nil_append] at htext
  exact ⟨(htext ['\n']).1 handwrittenDevice describes_handwrittenDevice (by decide),
    (htext ['\x7d']).2 (.inr (.inr (by decide)))⟩

end LanCensus.Device
