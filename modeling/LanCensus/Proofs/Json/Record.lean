/-
# LanCensus.Proofs.Json.Record -- lists, maps and records are read from their indented form

An array or object in its indented form has each item or member on a line. What follows an item is
either a comma and the next line, or the closing bracket (`moreItems`, `moreMembers`), so a reader that
goes from item to item is followed by induction on what is left. A record is filled member by member
(`Fills`), and what has been filled in at the end decides what it is.
-/

import LanCensus.Json.Record
import LanCensus.Proofs.Json.Reader

namespace LanCensus.Json

/-! ## Where values begin -/

/-- **`Starts s`** — the text begins with a character that is no blank and closes no array. -/
def Starts (s : List Char) : Prop := ∃ c t, s = c :: t ∧ isSpace c = false ∧ c ≠ ']'

/-- Every value begins with a mark of its own. -/
theorem starts_indented (level : Nat) (v : Json) : Starts (indented level v) := by
  cases v with
  | null => exact ⟨_, _, rfl, by decide, by decide⟩
  | bool b => cases b <;> exact ⟨_, _, rfl, by decide, by decide⟩
  | number n =>
      rw [indented, numberText]
      split
      · exact ⟨_, _, rfl, by decide, by decide⟩
      · obtain ⟨c, ds, hds, hdigit, -, hspace⟩ := toDigits_cons n.natAbs
        refine ⟨c, ds, hds, hspace, ?_⟩
        rintro rfl
        cases hdigit
  | string s =>
      rw [indented, stringText]
      exact ⟨_, _, rfl, by decide, by decide⟩
  | array items =>
      cases items with
      | nil => exact ⟨_, _, by rw [indented], by decide, by decide⟩
      | cons v items => exact ⟨_, _, by rw [indented], by decide, by decide⟩
  | object members =>
      cases members with
      | nil => exact ⟨_, _, by rw [indented], by decide, by decide⟩
      | cons m members => exact ⟨_, _, by rw [indented], by decide, by decide⟩

theorem areBlanks_newLine (level : Nat) : AreBlanks (newLine level) := by
  intro c hc
  rcases List.mem_cons.mp hc with rfl | hc
  · decide
  · rw [List.eq_of_mem_replicate hc]
    decide

theorem ends_newLine (level : Nat) (s : List Char) : Ends (newLine level ++ s) := by
  rintro c ⟨⟩
  exact .inr (.inr (.inr (by decide)))

/-- A mark with blanks before it. -/
theorem close_blanks {b : List Char} (hb : AreBlanks b) {c : Char} (hc : isSpace c = false)
    (s : List Char) : close c (b ++ c :: s) = .ok s := by
  rw [close, skipSpace_append hb, skipSpace_cons hc]
  simp only [if_true]

/-- A closing mark on a line of its own. -/
theorem close_newLine {c : Char} (hc : isSpace c = false) (level : Nat) (s : List Char) :
    close c (newLine level ++ c :: s) = .ok s := close_blanks (areBlanks_newLine level) hc s

/-! ## Lists -/

/-- What follows an item. -/
def moreItems (level : Nat) : List Json → List Char
  | [] => newLine level ++ [']']
  | v :: vs => ',' :: indentedItems level (v :: vs)

theorem indentedItems_cons (level : Nat) (v : Json) (vs : List Json) :
    indentedItems level (v :: vs) =
      newLine (level + 1) ++ (indented (level + 1) v ++ moreItems level vs) := by
  cases vs with
  | nil => rw [indentedItems, moreItems, List.append_assoc, List.append_assoc]
  | cons w vs =>
      rw [indentedItems, moreItems, List.append_assoc]
      exact List.cons_ne_nil w vs

theorem ends_moreItems (level : Nat) (vs : List Json) (s : List Char) :
    Ends (moreItems level vs ++ s) := by
  cases vs with
  | nil =>
      rw [moreItems, List.append_assoc]
      exact ends_newLine level _
  | cons v vs => exact ends_comma _

theorem Starts.append {s : List Char} (h : Starts s) (t : List Char) : Starts (s ++ t) := by
  obtain ⟨c, u, rfl, hc⟩ := h
  exact ⟨c, u ++ t, rfl, hc⟩

theorem nextItem_close (first : Bool) (level : Nat) (s : List Char) :
    nextItem first (newLine level ++ ']' :: s) = .ok none := by
  rw [nextItem, skipSpace_append (areBlanks_newLine level), skipSpace_cons (by decide)]
  rfl

theorem nextItem_first (level : Nat) {s : List Char} (hs : Starts s) :
    nextItem true (newLine level ++ s) = .ok (some s) := by
  obtain ⟨c, t, rfl, hspace, hclose⟩ := hs
  rw [nextItem, skipSpace_append (areBlanks_newLine level), skipSpace_cons hspace]
  simp only [if_true]

theorem nextItem_more (level : Nat) {s : List Char} (hs : Starts s) :
    nextItem false (',' :: (newLine level ++ s)) = .ok (some s) := by
  obtain ⟨c, t, rfl, hspace, hclose⟩ := hs
  have hskip : skipSpace (newLine level ++ c :: t) = c :: t := by
    rw [skipSpace_append (areBlanks_newLine level), skipSpace_cons hspace]
  rw [nextItem, skipSpace_cons (by decide)]
  simp [hskip, hclose]

section Lists

variable {α β : Type} {r : Reader α} {write : β → Json} {value : β → α} {level : Nat}

/-- An item and what follows it. -/
theorem readListFrom_of_nextItem {first : Bool} {s text rest : List Char} {x : α} {xs : List α}
    {fuel : Nat} (hnext : nextItem first s = .ok (some text)) (hread : r text = .ok (x, rest))
    {after : List Char} (hmore : readListFrom r fuel false rest = .ok (xs, after)) :
    readListFrom r (fuel + 1) first s = .ok (x :: xs, after) := by
  simp only [readListFrom, hnext, hread, hmore, bind, Except.bind, pure, Except.pure]

/-- The items after the first one. -/
theorem readListFrom_more {xs : List β}
    (h : ∀ x ∈ xs, Reads r (indented (level + 1) (write x)) (value x)) {fuel : Nat}
    (hfuel : xs.length < fuel) (rest : List Char) :
    readListFrom r fuel false (moreItems level (xs.map write) ++ rest) =
      .ok (xs.map value, newLine level ++ ']' :: rest) := by
  induction xs generalizing fuel with
  | nil =>
      obtain ⟨fuel, rfl⟩ := Nat.exists_eq_succ_of_ne_zero (Nat.ne_of_gt hfuel)
      simp only [List.map_nil, moreItems, List.append_assoc, List.singleton_append, readListFrom,
        nextItem_close, bind, Except.bind, pure, Except.pure]
  | cons x xs ih =>
      obtain ⟨fuel, rfl⟩ := Nat.exists_eq_succ_of_ne_zero (Nat.ne_of_gt (Nat.zero_lt_of_lt hfuel))
      obtain ⟨hx, hxs⟩ := List.forall_mem_cons.mp h
      have hstarts := starts_indented (level + 1) (write x)
      have hread := hx [] _ (List.forall_mem_nil _) (ends_moreItems level (xs.map write) rest)
      rw [List.map_cons, List.map_cons, moreItems, indentedItems_cons, List.cons_append,
        List.append_assoc, List.append_assoc]
      exact readListFrom_of_nextItem (nextItem_more _ (hstarts.append _)) hread
        (ih hxs (Nat.lt_of_succ_lt_succ hfuel))

/-- Every item takes up room. -/
theorem length_moreItems (level : Nat) (vs : List Json) : vs.length < (moreItems level vs).length := by
  induction vs with
  | nil => simp [moreItems]
  | cons v vs ih =>
      rw [moreItems, indentedItems_cons]
      simp only [List.length_cons, List.length_append]
      omega

/-- **`reads_list`** — a list, if its items are read. -/
theorem reads_list {xs : List β}
    (h : ∀ x ∈ xs, Reads r (indented (level + 1) (write x)) (value x)) :
    Reads (readList r) (indented level (.array (xs.map write))) (xs.map value) := by
  intro blanks rest hblanks _
  rw [readList, skipSpace_append hblanks]
  cases xs with
  | nil =>
      rw [List.map_nil, indented, List.cons_append, List.cons_append, skipSpace_cons (by decide)]
      rfl
  | cons x xs =>
      obtain ⟨hx, hxs⟩ := List.forall_mem_cons.mp h
      have hstarts := starts_indented (level + 1) (write x)
      have hlength := length_moreItems level (xs.map write)
      have hread := hx [] _ (List.forall_mem_nil _) (ends_moreItems level (xs.map write) rest)
      rw [List.map_cons, List.map_cons, indented, List.cons_append, skipSpace_cons (by decide),
        indentedItems_cons]
      simp only [List.append_assoc]
      rw [readListFrom_of_nextItem (nextItem_first _ (hstarts.append _)) hread
        (readListFrom_more hxs _ rest)]
      · simp only [bind, Except.bind, close_newLine (show isSpace ']' = false by decide), pure,
          Except.pure]
      · rw [List.length_map] at hlength
        simp only [List.length_append]
        omega

end Lists

/-! ## Members -/

/-- What follows a member. -/
def moreMembers (level : Nat) : List (String × Json) → List Char
  | [] => newLine level ++ ['\x7d']
  | m :: ms => ',' :: indentedMembers level (m :: ms)

/-- A member from behind its opening quote on, and what follows it. -/
def memberText (level : Nat) (m : String × Json) (after : List Char) : List Char :=
  m.1.toList.flatMap escapeChar ++ '"' :: ':' :: ' ' :: (indented (level + 1) m.2 ++ after)

theorem indentedMembers_cons (level : Nat) (m : String × Json) (ms : List (String × Json)) :
    indentedMembers level (m :: ms) =
      newLine (level + 1) ++ '"' :: memberText level m (moreMembers level ms) := by
  cases ms with
  | nil => simp [indentedMembers, moreMembers, memberText, stringText]
  | cons n ms => simp [indentedMembers, moreMembers, memberText, stringText]

theorem memberText_append (level : Nat) (m : String × Json) (after rest : List Char) :
    memberText level m after ++ rest = memberText level m (after ++ rest) := by
  simp only [memberText, List.append_assoc, List.cons_append]

theorem ends_moreMembers (level : Nat) (ms : List (String × Json)) (s : List Char) :
    Ends (moreMembers level ms ++ s) := by
  cases ms with
  | nil =>
      rw [moreMembers, List.append_assoc]
      exact ends_newLine level _
  | cons m ms => exact ends_comma _

/-- The closing brace with blanks before it. -/
theorem nextMember_blanks {b : List Char} (hb : AreBlanks b) (first : Bool) (s : List Char) :
    nextMember first (b ++ '\x7d' :: s) = .ok none := by
  rw [nextMember, skipSpace_append hb, skipSpace_cons (by decide)]
  rfl

theorem nextMember_close (first : Bool) (level : Nat) (s : List Char) :
    nextMember first (newLine level ++ '\x7d' :: s) = .ok none :=
  nextMember_blanks (areBlanks_newLine level) first s

theorem nextMember_first (level : Nat) (s : List Char) :
    nextMember true (newLine level ++ '"' :: s) = .ok (some s) := by
  rw [nextMember, skipSpace_append (areBlanks_newLine level), skipSpace_cons (by decide)]
  rfl

theorem nextMember_more (level : Nat) (s : List Char) :
    nextMember false (',' :: (newLine level ++ '"' :: s)) = .ok (some s) := by
  have hskip : skipSpace (newLine level ++ '"' :: s) = '"' :: s := by
    rw [skipSpace_append (areBlanks_newLine level), skipSpace_cons (by decide)]
  rw [nextMember, skipSpace_cons (by decide)]
  simp [hskip]

theorem memberName_memberText (level : Nat) (m : String × Json) (after : List Char) :
    memberName (memberText level m after) =
      .ok (m.1, ':' :: ' ' :: (indented (level + 1) m.2 ++ after)) := by
  simp only [memberName, memberText, stringBody_text, String.ofList_toList, bind, Except.bind]
  rfl

theorem close_colon (s : List Char) : close ':' (':' :: s) = .ok s :=
  close_blanks (List.forall_mem_nil _) (by decide) s

/-- The value of a member is read from behind its colon. -/
theorem Reads.member {α : Type} {r : Reader α} {s : List Char} {x : α} (h : Reads r s x)
    {rest : List Char} (hrest : Ends rest) : r (' ' :: (s ++ rest)) = .ok (x, rest) :=
  h [' '] rest (List.forall_mem_singleton.mpr rfl) hrest

/-- Every member takes up room. -/
theorem length_moreMembers (level : Nat) (ms : List (String × Json)) :
    ms.length < (moreMembers level ms).length := by
  induction ms with
  | nil => simp [moreMembers]
  | cons m ms ih =>
      rw [moreMembers, indentedMembers_cons, memberText]
      simp only [List.length_cons, List.length_append]
      omega

/-! ## Maps -/

section Maps

variable {α β : Type} {r : Reader α} {write : β → Json} {value : β → α} {level : Nat}

/-- A member and what follows it. -/
theorem readMapFrom_of_nextMember {first : Bool} {s after rest : List Char} {m : String × Json}
    {x : α} {xs : List (String × α)} {fuel : Nat}
    (hnext : nextMember first s = .ok (some (memberText level m rest)))
    (hread : Reads r (indented (level + 1) m.2) x) (hrest : Ends rest)
    (hmore : readMapFrom r fuel false rest = .ok (xs, after)) :
    readMapFrom r (fuel + 1) first s = .ok ((m.1, x) :: xs, after) := by
  simp only [readMapFrom, hnext, memberName_memberText, close_colon, hread.member hrest, hmore,
    bind, Except.bind, pure, Except.pure]

/-- The members after the first one. -/
theorem readMapFrom_more {ms : List (String × β)}
    (h : ∀ m ∈ ms, Reads r (indented (level + 1) (write m.2)) (value m.2)) {fuel : Nat}
    (hfuel : ms.length < fuel) (rest : List Char) :
    readMapFrom r fuel false (moreMembers level (ms.map fun m => (m.1, write m.2)) ++ rest) =
      .ok (ms.map fun m => (m.1, value m.2), newLine level ++ '\x7d' :: rest) := by
  induction ms generalizing fuel with
  | nil =>
      obtain ⟨fuel, rfl⟩ := Nat.exists_eq_succ_of_ne_zero (Nat.ne_of_gt hfuel)
      simp only [List.map_nil, moreMembers, List.append_assoc, List.singleton_append, readMapFrom,
        nextMember_close, bind, Except.bind, pure, Except.pure]
  | cons m ms ih =>
      obtain ⟨fuel, rfl⟩ := Nat.exists_eq_succ_of_ne_zero (Nat.ne_of_gt (Nat.zero_lt_of_lt hfuel))
      obtain ⟨hm, hms⟩ := List.forall_mem_cons.mp h
      rw [List.map_cons, List.map_cons, moreMembers, indentedMembers_cons, List.cons_append,
        List.append_assoc, List.cons_append, memberText_append]
      exact readMapFrom_of_nextMember (nextMember_more _ _) hm (ends_moreMembers _ _ rest)
        (ih hms (Nat.lt_of_succ_lt_succ hfuel))

/-- **`reads_map`** — a map, if the values of its members are read. -/
theorem reads_map {ms : List (String × β)}
    (h : ∀ m ∈ ms, Reads r (indented (level + 1) (write m.2)) (value m.2)) :
    Reads (readMap r) (indented level (.object (ms.map fun m => (m.1, write m.2))))
      (ms.map fun m => (m.1, value m.2)) := by
  intro blanks rest hblanks _
  rw [readMap, skipSpace_append hblanks]
  cases ms with
  | nil =>
      rw [List.map_nil, indented, List.cons_append, List.cons_append, skipSpace_cons (by decide)]
      rfl
  | cons m ms =>
      obtain ⟨hm, hms⟩ := List.forall_mem_cons.mp h
      have hlength := length_moreMembers level (ms.map fun m => (m.1, write m.2))
      rw [List.map_cons, List.map_cons, indented, List.cons_append, skipSpace_cons (by decide),
        indentedMembers_cons]
      simp only [List.append_assoc, List.cons_append, memberText_append]
      rw [readMapFrom_of_nextMember (nextMember_first _ _) hm (ends_moreMembers _ _ rest)
        (readMapFrom_more hms _ rest)]
      · simp only [bind, Except.bind, close_newLine (show isSpace '\x7d' = false by decide), pure,
          Except.pure]
      · rw [List.length_map] at hlength
        simp only [memberText, List.length_append, List.length_cons]
        omega

end Maps

/-! ## Records -/

section Records

variable {σ : Type} {fields : List (Field σ)} {level : Nat}

/-- **`Fills fields level d ms e`** — the members fill the draft `d` up to `e`: each of them is a field
that has not been given yet. -/
inductive Fills (fields : List (Field σ)) (level : Nat) : σ → List (String × Json) → σ → Prop where
  | done (d : σ) : Fills fields level d [] d
  | member {d e g : σ} {field : Field σ} {m : String × Json} {ms : List (String × Json)} :
    fields.find? (·.name == m.1) = some field → field.given d = false →
    Reads (field.read d) (indented level m.2) e → Fills fields level e ms g →
    Fills fields level d (m :: ms) g

/-- A member and what follows it. -/
theorem readMembers_of_nextMember {first : Bool} {s rest : List Char} {m : String × Json}
    {d e : σ} {field : Field σ} {fuel : Nat} {answer : Except Fault (σ × List Char)}
    (hnext : nextMember first s = .ok (some (memberText level m rest)))
    (hfield : fields.find? (·.name == m.1) = some field) (hgiven : field.given d = false)
    (hread : Reads (field.read d) (indented (level + 1) m.2) e) (hrest : Ends rest)
    (hmore : readMembers fields fuel false e rest = answer) :
    readMembers fields (fuel + 1) first d s = answer := by
  have hmember : readMember fields m.1 d (':' :: ' ' :: (indented (level + 1) m.2 ++ rest)) =
      .ok (e, rest) := by
    simp only [readMember, hfield, hgiven, close_colon, bind, Except.bind, hread.member hrest]
    rfl
  simp only [readMembers, hnext, memberName_memberText, hmember, bind, Except.bind]
  exact hmore

/-- The members after the first one. -/
theorem Fills.readMembers_more {d e : σ} {ms : List (String × Json)}
    (h : Fills fields (level + 1) d ms e) {fuel : Nat} (hfuel : ms.length < fuel)
    (rest : List Char) :
    readMembers fields fuel false d (moreMembers level ms ++ rest) =
      .ok (e, newLine level ++ '\x7d' :: rest) := by
  induction h generalizing fuel with
  | done d =>
      obtain ⟨fuel, rfl⟩ := Nat.exists_eq_succ_of_ne_zero (Nat.ne_of_gt hfuel)
      simp only [moreMembers, List.append_assoc, List.singleton_append, readMembers,
        nextMember_close, bind, Except.bind, pure, Except.pure]
  | member hfield hgiven hread _ ih =>
      obtain ⟨fuel, rfl⟩ := Nat.exists_eq_succ_of_ne_zero (Nat.ne_of_gt (Nat.zero_lt_of_lt hfuel))
      rw [moreMembers, indentedMembers_cons, List.cons_append, List.append_assoc, List.cons_append,
        memberText_append]
      exact readMembers_of_nextMember (nextMember_more _ _) hfield hgiven hread
        (ends_moreMembers _ _ rest) (ih (Nat.lt_of_succ_lt_succ hfuel))

/-- **`reads_record`** — a record, if its members fill the draft and the draft is complete. -/
theorem reads_record {α : Type} {d e : σ} {finish : σ → Option α} {x : α} {m : String × Json}
    {ms : List (String × Json)} (h : Fills fields (level + 1) d (m :: ms) e)
    (hfinish : finish e = some x) :
    Reads (readRecord fields d finish) (indented level (.object (m :: ms))) x := by
  intro blanks rest hblanks _
  have hlength := length_moreMembers level ms
  cases h with
  | member hfield hgiven hread hmore =>
      rw [readRecord, skipSpace_append hblanks, indented, List.cons_append,
        skipSpace_cons (by decide), indentedMembers_cons]
      simp only [List.append_assoc, List.cons_append, memberText_append]
      rw [readMembers_of_nextMember (nextMember_first _ _) hfield hgiven hread
        (ends_moreMembers _ _ rest) (hmore.readMembers_more _ rest)]
      · simp only [bind, Except.bind, hfinish,
          close_newLine (show isSpace '\x7d' = false by decide), pure, Except.pure]
      · simp only [memberText, List.length_append, List.length_cons]
        omega

end Records

end LanCensus.Json
