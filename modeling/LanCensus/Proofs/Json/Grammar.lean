/-
# LanCensus.Proofs.Json.Grammar -- the texts of values, and how they are skipped

The grammar of JSON apart from any reader. A value is a word, a number, a string, or brackets around
elements or members; an element is a value with blanks on both sides, and so brackets nest to any depth
(`Forms`). Skipping a value leaves what follows it, whatever the value holds: one case for each rule of the
grammar, and every bracket, element and member pays for the fuel that it takes.
-/

import LanCensus.Proofs.Json.Record
import LanCensus.Proofs.Json.Spelling

namespace LanCensus.Json

/-! ## The grammar -/

/-- One digit or more. -/
def AreDigits (s : List Char) : Prop := s ≠ [] ∧ ∀ c ∈ s, c.isDigit = true

/-- The whole part of a number: a zero does not stand in front of other digits. -/
def IsWhole (s : List Char) : Prop := AreDigits s ∧ (s.length > 1 → s.head? ≠ some '0')

/-- **`IsFraction s`** — the fraction of a number, if it has one. -/
inductive IsFraction : List Char → Prop where
  | none : IsFraction []
  | digits {ds : List Char} : AreDigits ds → IsFraction ('.' :: ds)

/-- **`IsExponent s`** — the exponent of a number, if it has one. -/
inductive IsExponent : List Char → Prop where
  | none : IsExponent []
  | digits {mark : Char} {sign ds : List Char} : mark = 'e' ∨ mark = 'E' →
    sign ∈ [[], ['+'], ['-']] → AreDigits ds → IsExponent (mark :: (sign ++ ds))

/-- **`IsMagnitude s`** — a number without its sign. -/
inductive IsMagnitude : List Char → Prop where
  | mk {whole fraction exponent : List Char} : IsWhole whole → IsFraction fraction →
    IsExponent exponent → IsMagnitude (whole ++ (fraction ++ exponent))

/-- **`Part`** — the parts of a text that the grammar tells apart. -/
inductive Part where
  | value
  | element
  | elements
  | member
  | members

/-- **`Forms p s`** — the text is a part of kind `p`. -/
inductive Forms : Part → List Char → Prop where
  | null : Forms .value ['n', 'u', 'l', 'l']
  | true : Forms .value ['t', 'r', 'u', 'e']
  | false : Forms .value ['f', 'a', 'l', 's', 'e']
  | number {w : List Char} : IsMagnitude w → Forms .value w
  | negative {w : List Char} : IsMagnitude w → Forms .value ('-' :: w)
  | string {w : List Char} : IsBody w → Forms .value ('"' :: (w ++ ['"']))
  | noElements {b : List Char} : AreBlanks b → Forms .value ('[' :: (b ++ [']']))
  | array {w : List Char} : Forms .elements w → Forms .value ('[' :: (w ++ [']']))
  | noMembers {b : List Char} : AreBlanks b → Forms .value ('\x7b' :: (b ++ ['\x7d']))
  | object {w : List Char} : Forms .members w → Forms .value ('\x7b' :: (w ++ ['\x7d']))
  | element {b v b' : List Char} : AreBlanks b → Forms .value v → AreBlanks b' →
    Forms .element (b ++ (v ++ b'))
  | lastElement {w : List Char} : Forms .element w → Forms .elements w
  | moreElements {w s : List Char} : Forms .element w → Forms .elements s →
    Forms .elements (w ++ ',' :: s)
  | member {b n b' w : List Char} : AreBlanks b → IsBody n → AreBlanks b' → Forms .element w →
    Forms .member (b ++ '"' :: (n ++ '"' :: (b' ++ ':' :: w)))
  | lastMember {w : List Char} : Forms .member w → Forms .members w
  | moreMembers {w s : List Char} : Forms .member w → Forms .members s →
    Forms .members (w ++ ',' :: s)

/-- A text of plain characters in quotes. -/
theorem forms_plain {s : List Char} (h : s.all isPlain = true) :
    Forms .value ('"' :: (s ++ ['"'])) := .string (spells_plain h).isBody

/-! ## Skipping a number -/

theorem skipDigits_append {ds rest : List Char} (hds : AreDigits ds)
    (h : ∀ c ∈ rest.head?, c.isDigit = false) : skipDigits (ds ++ rest) = .ok rest := by
  obtain ⟨htake, hdrop⟩ := takeWhile_digits hds.2 h
  rw [skipDigits, htake, hdrop, if_neg]
  simpa using hds.1

/-- What ends a value is no exponent. -/
theorem skipExponent_of_ends {rest : List Char} (h : Ends rest) : skipExponent rest = .ok rest := by
  have hmark : ∀ c ∈ rest.head?, ¬(c = 'e' ∨ c = 'E') := fun c hc =>
    not_or.mpr (h.not_number hc).2.2
  unfold skipExponent
  split
  · rw [if_neg (hmark _ rfl)]
  · rw [if_neg (hmark _ rfl)]
  · rw [if_neg (hmark _ rfl)]
  · rfl

theorem skipExponent_append {s rest : List Char} (hs : IsExponent s) (h : Ends rest) :
    skipExponent (s ++ rest) = .ok rest := by
  cases hs with
  | none => exact skipExponent_of_ends h
  | @digits mark sign ds hmark hsign hds =>
      have hdigits := skipDigits_append hds fun c hc => (h.not_number hc).1
      rw [List.cons_append, List.append_assoc]
      simp only [List.mem_cons, List.not_mem_nil, or_false] at hsign
      rcases hsign with rfl | rfl | rfl
      · -- Without a sign, the digits begin at once.
        obtain ⟨d, ds, rfl⟩ := List.exists_cons_of_ne_nil hds.1
        have hd := hds.2 d List.mem_cons_self
        rw [List.nil_append, List.cons_append, skipExponent, if_pos hmark]
        · exact hdigits
        · rintro _ ⟨⟩
          cases hd
        · rintro _ ⟨⟩
          cases hd
      · rw [List.singleton_append, skipExponent, if_pos hmark]
        exact hdigits
      · rw [List.singleton_append, skipExponent, if_pos hmark]
        exact hdigits

/-- An exponent, or what follows a number, does not begin like a fraction or a digit. -/
theorem head?_exponent {s rest : List Char} (hs : IsExponent s) (h : Ends rest) :
    ∀ c ∈ (s ++ rest).head?, c.isDigit = false ∧ c ≠ '.' := by
  cases hs with
  | none => exact fun c hc => ⟨(h.not_number hc).1, (h.not_number hc).2.1⟩
  | digits hmark =>
      rintro c ⟨⟩
      rcases hmark with rfl | rfl <;> decide

theorem skipFraction_append {s rest : List Char} (hs : IsFraction s)
    (h : ∀ c ∈ rest.head?, c.isDigit = false ∧ c ≠ '.') :
    skipFraction (s ++ rest) = .ok rest := by
  cases hs with
  | digits hds => exact skipDigits_append hds fun c hc => (h c hc).1
  | none =>
      cases rest with
      | nil => rfl
      | cons c rest =>
          rw [List.nil_append, skipFraction]
          exact fun _ heq => (h c rfl).2 (List.cons.inj heq).1

/-- What follows the whole part of a number does not begin with a digit. -/
theorem head?_fraction {s rest : List Char} (hs : IsFraction s)
    (h : ∀ c ∈ rest.head?, c.isDigit = false ∧ c ≠ '.') :
    ∀ c ∈ (s ++ rest).head?, c.isDigit = false := by
  cases hs with
  | none => exact fun c hc => (h c hc).1
  | digits =>
      rintro c ⟨⟩
      rfl

/-- **`skipMagnitude_append`** — a number is skipped to its end. -/
theorem skipMagnitude_append {s rest : List Char} (hs : IsMagnitude s) (h : Ends rest) :
    skipMagnitude (s ++ rest) = .ok rest := by
  cases hs with
  | @mk whole fraction exponent hwhole hfraction hexponent =>
      have hhead := head?_exponent hexponent h
      have hfollow := head?_fraction hfraction hhead
      obtain ⟨htake, -⟩ := takeWhile_digits hwhole.1.2 hfollow
      rw [List.append_assoc, List.append_assoc, skipMagnitude]
      split
      · next hzero =>
        rw [htake] at hzero
        exact absurd (congrArg List.head? hzero) (hwhole.2 (by rw [hzero]; simp))
      · simp only [skipDigits_append hwhole.1 hfollow, skipFraction_append hfraction hhead,
          skipExponent_append hexponent h, bind, Except.bind]

/-! ## Where parts begin -/

theorem exists_digit_of_isMagnitude {s : List Char} (h : IsMagnitude s) :
    ∃ c t, s = c :: t ∧ c.isDigit = true := by
  cases h with
  | @mk whole _ _ hwhole =>
      obtain ⟨c, t, rfl⟩ := List.exists_cons_of_ne_nil hwhole.1.1
      exact ⟨c, _, rfl, hwhole.1.2 c List.mem_cons_self⟩

theorem starts_of_isDigit {c : Char} (h : c.isDigit = true) (t : List Char) : Starts (c :: t) := by
  refine ⟨c, t, rfl, ?_, ?_⟩
  · rw [← Bool.not_eq_true]
    intro hspace
    simp only [isSpace, Bool.or_eq_true, beq_iff_eq] at hspace
    rcases hspace with ((rfl | rfl) | rfl) | rfl <;> cases h
  · rintro rfl
    cases h

/-- Every value begins with a mark of its own. -/
theorem starts_value {v : List Char} (h : Forms .value v) : Starts v := by
  cases h with
  | number hw =>
      obtain ⟨c, t, rfl, hc⟩ := exists_digit_of_isMagnitude hw
      exact starts_of_isDigit hc t
  | _ => exact ⟨_, _, rfl, by decide, by decide⟩

theorem Starts.skipSpace {s : List Char} (h : Starts s) {b : List Char} (hb : AreBlanks b)
    (rest : List Char) : skipSpace (b ++ (s ++ rest)) = s ++ rest := by
  obtain ⟨c, t, rfl, hspace, -⟩ := h
  rw [skipSpace_append hb, List.cons_append, skipSpace_cons hspace]

/-- Elements do not begin with the bracket that would close them. -/
theorem skipSpace_elements {p : Part} {w : List Char} (h : Forms p w) (hp : p = .element ∨ p = .elements)
    (rest : List Char) : ∃ c t, skipSpace (w ++ rest) = c :: t ∧ c ≠ ']' := by
  induction h generalizing rest with
  | @element b v b' hb hv =>
      obtain ⟨c, t, ht, hspace, hc⟩ := starts_value hv
      refine ⟨c, t ++ (b' ++ rest), ?_, hc⟩
      rw [List.append_assoc, List.append_assoc, (starts_value hv).skipSpace hb, ht, List.cons_append]
  | lastElement _ ih => exact ih (.inl rfl) rest
  | @moreElements w s _ _ ih =>
      rw [List.append_assoc]
      exact ih (.inl rfl) _
  | _ => rcases hp with hp | hp <;> cases hp

/-- Members do not begin with the brace that would close them. -/
theorem skipSpace_members {p : Part} {w : List Char} (h : Forms p w) (hp : p = .member ∨ p = .members)
    (rest : List Char) : ∃ t, skipSpace (w ++ rest) = '"' :: t := by
  induction h generalizing rest with
  | @member b n b' w hb =>
      rw [List.append_assoc, skipSpace_append hb, List.cons_append, skipSpace_cons (by decide)]
      exact ⟨_, rfl⟩
  | lastMember _ ih => exact ih (.inl rfl) rest
  | @moreMembers w s _ _ ih =>
      rw [List.append_assoc]
      exact ih (.inl rfl) _
  | _ => rcases hp with hp | hp <;> cases hp

/-! ## Skipping a value -/

theorem ends_cons {c : Char} (h : c = ',' ∨ c = ']' ∨ c = '\x7d') (s : List Char) : Ends (c :: s) := by
  rintro d ⟨⟩
  rcases h with h | h | h
  · exact .inl h
  · exact .inr (.inl h)
  · exact .inr (.inr (.inl h))

theorem Ends.blanks_append {s : List Char} (h : Ends s) {b : List Char} (hb : AreBlanks b) :
    Ends (b ++ s) := by
  cases b with
  | nil => exact h
  | cons c b =>
      rintro d ⟨⟩
      exact .inr (.inr (.inr (hb c List.mem_cons_self)))

/-- **`Skipped p s`** — what the reader does with a part that it skips. A part that stands between brackets
takes one more step than the values in it. -/
def Skipped : Part → List Char → Prop
  | .value, s => ∀ b rest fuel, AreBlanks b → Ends rest → 2 * s.length ≤ fuel →
    skipValueWith fuel (b ++ (s ++ rest)) = .ok rest
  | .element, s => ∀ rest fuel, Ends rest → 2 * s.length ≤ fuel →
    ∃ b, AreBlanks b ∧ skipValueWith fuel (s ++ rest) = .ok (b ++ rest)
  | .elements, s => ∀ rest fuel, 2 * s.length < fuel →
    skipItemsWith fuel (s ++ ']' :: rest) = .ok rest
  | .member, s => ∀ rest fuel, 2 * s.length ≤ fuel →
    skipMembersWith (fuel + 1) (s ++ ',' :: rest) = skipMembersWith fuel rest ∧
      skipMembersWith (fuel + 1) (s ++ '\x7d' :: rest) = .ok rest
  | .members, s => ∀ rest fuel, 2 * s.length < fuel →
    skipMembersWith fuel (s ++ '\x7d' :: rest) = .ok rest

/-- A value is skipped with blanks before it as it is without them. -/
theorem skipped_value {s : List Char} (hs : s ≠ [])
    (h : ∀ rest fuel, Ends rest → 2 * s.length ≤ fuel + 1 →
      skipValueWith (fuel + 1) (s ++ rest) = .ok rest) : Skipped .value s := by
  intro b rest fuel hb hrest hfuel
  have hpos := List.length_pos_iff.mpr hs
  obtain ⟨fuel, rfl⟩ := Nat.exists_eq_add_one.mpr (show 0 < fuel by omega)
  rw [← h rest fuel hrest hfuel, skipValueWith, skipValueWith, skipSpace_append hb]

/-- A number is skipped. -/
theorem skipped_magnitude {w : List Char} (hw : IsMagnitude w) : Skipped .value w := by
  obtain ⟨c, t, rfl, hc⟩ := exists_digit_of_isMagnitude hw
  refine skipped_value (List.cons_ne_nil c t) fun rest fuel hrest _ => ?_
  have hskip := skipMagnitude_append hw hrest
  have hfront := (starts_of_isDigit hc t).skipSpace (List.forall_mem_nil _) rest
  rw [List.nil_append, List.cons_append] at hfront
  rw [List.cons_append] at hskip ⊢
  rw [skipValueWith, hfront]
  -- No other value begins with a digit.
  split
  case h_9 heq =>
    obtain ⟨rfl, rfl⟩ := List.cons.inj heq
    rw [if_pos hc, hskip]
  case h_1 heq => cases heq
  all_goals
    next heq =>
    obtain ⟨rfl, -⟩ := List.cons.inj heq
    cases hc

/-- A member is skipped up to the mark that follows it. -/
theorem skipMembersWith_member {b n b' w : List Char} (hb : AreBlanks b) (hn : IsBody n)
    (hb' : AreBlanks b') (hw : Skipped .element w) {rest : List Char} (hrest : Ends rest) {fuel : Nat}
    (hfuel : 2 * w.length ≤ fuel) :
    skipMembersWith (fuel + 1) ((b ++ '"' :: (n ++ '"' :: (b' ++ ':' :: w))) ++ rest) =
      match skipSpace rest with
      | ',' :: rest => skipMembersWith fuel rest
      | '\x7d' :: rest => .ok rest
      | rest => .error (unexpected rest) := by
  obtain ⟨b'', hb'', hskip⟩ := hw rest fuel hrest hfuel
  simp only [List.append_assoc, List.cons_append]
  rw [skipMembersWith, skipSpace_append hb, skipSpace_cons (by decide)]
  simp only [skipString_body hn, bind, Except.bind]
  rw [skipSpace_append hb', skipSpace_cons (by decide)]
  simp only [hskip]
  rewrite [skipSpace_append hb'']
  rfl

/-- **`skipped_of_forms`** — every part is skipped, and what follows it is left. -/
theorem skipped_of_forms {p : Part} {s : List Char} (h : Forms p s) : Skipped p s := by
  induction h with
  | null =>
      refine skipped_value (List.cons_ne_nil _ _) fun rest fuel _ _ => ?_
      rw [List.cons_append, skipValueWith, skipSpace_cons (by decide)]
      exact word_append _ rest
  | true =>
      refine skipped_value (List.cons_ne_nil _ _) fun rest fuel _ _ => ?_
      rw [List.cons_append, skipValueWith, skipSpace_cons (by decide)]
      exact word_append _ rest
  | false =>
      refine skipped_value (List.cons_ne_nil _ _) fun rest fuel _ _ => ?_
      rw [List.cons_append, skipValueWith, skipSpace_cons (by decide)]
      exact word_append _ rest
  | number hw => exact skipped_magnitude hw
  | negative hw =>
      refine skipped_value (List.cons_ne_nil _ _) fun rest fuel hrest _ => ?_
      rw [List.cons_append, skipValueWith, skipSpace_cons (by decide)]
      exact skipMagnitude_append hw hrest
  | string hw =>
      refine skipped_value (List.cons_ne_nil _ _) fun rest fuel _ _ => ?_
      rw [List.cons_append, List.append_assoc, skipValueWith, skipSpace_cons (by decide)]
      exact skipString_body hw rest
  | noElements hb =>
      refine skipped_value (List.cons_ne_nil _ _) fun rest fuel _ _ => ?_
      have hclose : skipSpace ([']'] ++ rest) = ']' :: rest := skipSpace_cons (by decide) rest
      rw [List.cons_append, List.append_assoc, skipValueWith, skipSpace_cons (by decide)]
      simp only [skipSpace_append hb, hclose]
  | @array w hw ih =>
      refine skipped_value (List.cons_ne_nil _ _) fun rest fuel _ hfuel => ?_
      obtain ⟨c, t, hfirst, hc⟩ := skipSpace_elements hw (.inr rfl) ([']'] ++ rest)
      have hskip : skipItemsWith fuel (w ++ ']' :: rest) = .ok rest :=
        ih rest fuel (by simp only [List.length_cons, List.length_append] at hfuel; omega)
      rw [List.cons_append, List.append_assoc, skipValueWith, skipSpace_cons (by decide)]
      simp only [hfirst]
      split
      · next heq => exact absurd (List.cons.inj heq).1 hc
      · exact hskip
  | noMembers hb =>
      refine skipped_value (List.cons_ne_nil _ _) fun rest fuel _ _ => ?_
      have hclose : skipSpace (['\x7d'] ++ rest) = '\x7d' :: rest := skipSpace_cons (by decide) rest
      rw [List.cons_append, List.append_assoc, skipValueWith, skipSpace_cons (by decide)]
      simp only [skipSpace_append hb, hclose]
  | @object w hw ih =>
      refine skipped_value (List.cons_ne_nil _ _) fun rest fuel _ hfuel => ?_
      obtain ⟨t, hfirst⟩ := skipSpace_members hw (.inr rfl) (['\x7d'] ++ rest)
      rw [List.cons_append, List.append_assoc, skipValueWith, skipSpace_cons (by decide)]
      simp only [hfirst]
      exact ih rest fuel (by simp only [List.length_cons, List.length_append] at hfuel; omega)
  | @element b v b' hb _ hb' ih =>
      intro rest fuel hrest hfuel
      refine ⟨b', hb', ?_⟩
      rw [List.append_assoc, List.append_assoc]
      refine ih b (b' ++ rest) fuel hb (hrest.blanks_append hb') ?_
      simp only [List.length_append] at hfuel
      omega
  | @lastElement w _ ih =>
      intro rest fuel hfuel
      obtain ⟨fuel, rfl⟩ := Nat.exists_eq_add_one.mpr (Nat.zero_lt_of_lt hfuel)
      obtain ⟨b, hb, hskip⟩ := ih (']' :: rest) fuel (ends_cons (.inr (.inl rfl)) rest) (by omega)
      rw [skipItemsWith, hskip]
      simp only [bind, Except.bind, skipSpace_append hb, skipSpace_cons (show isSpace ']' = _ from rfl)]
  | @moreElements w s _ _ ihw ihs =>
      intro rest fuel hfuel
      rw [List.length_append, List.length_cons] at hfuel
      obtain ⟨fuel, rfl⟩ := Nat.exists_eq_add_one.mpr (Nat.zero_lt_of_lt hfuel)
      obtain ⟨b, hb, hskip⟩ := ihw (',' :: (s ++ ']' :: rest)) fuel (ends_comma _) (by omega)
      rw [List.append_assoc, List.cons_append, skipItemsWith, hskip]
      simp only [bind, Except.bind, skipSpace_append hb, skipSpace_cons (show isSpace ',' = _ from rfl)]
      exact ihs rest fuel (by omega)
  | @member b n b' w hb hn hb' _ ih =>
      intro rest fuel hfuel
      simp only [List.length_append, List.length_cons] at hfuel
      rw [skipMembersWith_member hb hn hb' ih (ends_comma rest) (by omega),
        skipMembersWith_member hb hn hb' ih (ends_cons (.inr (.inr rfl)) rest) (by omega),
        skipSpace_cons (by decide), skipSpace_cons (by decide)]
      exact ⟨rfl, rfl⟩
  | @lastMember w _ ih =>
      intro rest fuel hfuel
      obtain ⟨fuel, rfl⟩ := Nat.exists_eq_add_one.mpr (Nat.zero_lt_of_lt hfuel)
      exact (ih rest fuel (by omega)).2
  | @moreMembers w s _ _ ihw ihs =>
      intro rest fuel hfuel
      rw [List.length_append, List.length_cons] at hfuel
      obtain ⟨fuel, rfl⟩ := Nat.exists_eq_add_one.mpr (Nat.zero_lt_of_lt hfuel)
      rw [List.append_assoc, List.cons_append, (ihw _ fuel (by omega)).1]
      exact ihs rest fuel (by omega)

/-- **`skipValue_append`** — a value is skipped, with the blanks before it. -/
theorem skipValue_append {v : List Char} (h : Forms .value v) {b rest : List Char} (hb : AreBlanks b)
    (hrest : Ends rest) : skipValue (b ++ (v ++ rest)) = .ok rest := by
  refine skipped_of_forms h b rest _ hb hrest ?_
  simp only [List.length_append]
  omega

end LanCensus.Json
