/-
# LanCensus.Proofs.Net.HostName -- which answers are names

Of an answer the blanks around it are taken, then the dots at its end, and what is left is the name unless it is
an address literal. The name is never empty or a literal, never begins with a blank and never ends with a dot.

Each of the two is done once, so a blank in front of the dots is left over. Such an answer has loose dots
(`HasLooseDots`). It is what keeps a name from being clean, and from being its own name (`name_of_answer`); and of
all the ways in which blanks and dots can surround a literal, loose dots and dots in front are the ones in which
it passes for a name.
-/

import LanCensus.Net.HostName
import LanCensus.Proofs.Net.Literal
import LanCensus.Proofs.Text.Blank

namespace LanCensus

open Text (IsBare IsTight allBlank isBlank dropEndWhile trim)

variable {answer lead lit trail s t : List Char} {name : String} {a : Address}

/-! ## What is left of an answer -/

/-- What is left of an answer without its blanks and dots. -/
def stripped (answer : List Char) : List Char := dropEndWhile (· = '.') (trim answer)

/-- **`HasLooseDots answer`** — dots stand at the end of the answer, blanks behind them aside, and a blank stands
in front of them. -/
def HasLooseDots (answer : List Char) : Prop :=
  ∃ (front : List Char) (c : Char) (n : Nat) (trail : List Char), isBlank c = true ∧ allBlank trail = true ∧
    answer = front ++ c :: (List.replicate (n + 1) '.' ++ trail)

/-- The dots that are taken from a text. -/
theorem exists_dropEndWhile_dot (s : List Char) :
    ∃ n, s = dropEndWhile (· = '.') s ++ List.replicate n '.' := by
  have hdots : s.rtakeWhile (· = '.') = List.replicate (s.rtakeWhile (· = '.')).length '.' := by
    apply List.eq_replicate_iff.mpr
    refine ⟨rfl, fun c hc => ?_⟩
    simpa using List.mem_rtakeWhile_imp hc
  refine ⟨(s.rtakeWhile (· = '.')).length, ?_⟩
  rw [← hdots]
  exact (List.rdropWhile_append_rtakeWhile).symm

/-- An answer in its parts: blanks, what is left of it, dots and blanks again. -/
theorem exists_stripped (answer : List Char) : ∃ lead n trail, allBlank lead = true ∧ allBlank trail = true ∧
    IsBare (stripped answer ++ List.replicate n '.') ∧
    answer = lead ++ (stripped answer ++ List.replicate n '.') ++ trail := by
  obtain ⟨lead, trail, hlead, htrail, hanswer⟩ := Text.exists_trim answer
  obtain ⟨n, htrim⟩ := exists_dropEndWhile_dot (trim answer)
  have hparts : stripped answer ++ List.replicate n '.' = trim answer := htrim.symm
  refine ⟨lead, n, trail, hlead, htrail, ?_, ?_⟩
  · rw [hparts]
    exact Text.isBare_trim answer
  · rw [hparts]
    exact hanswer

/-- **`stripped_eq`** — whatever has these parts is stripped to the second of them. -/
theorem stripped_eq {n : Nat} (hlead : allBlank lead = true) (htrail : allBlank trail = true)
    (hbare : IsBare (s ++ List.replicate n '.')) (hlast : ∀ c ∈ s.getLast?, c ≠ '.') :
    stripped (lead ++ (s ++ List.replicate n '.') ++ trail) = s := by
  rw [stripped, Text.trim_append hlead htrail hbare]
  apply Text.dropEndWhile_append
  · intro c hc
    exact decide_eq_false (hlast c hc)
  · intro c hc
    exact decide_eq_true (List.eq_of_mem_replicate hc)

/-- A dot at the end of a text is no blank. -/
theorem isBare_append_dots {n : Nat} (hhead : ∀ c ∈ s.head?, isBlank c = false)
    (hlast : n = 0 → ∀ c ∈ s.getLast?, isBlank c = false) : IsBare (s ++ List.replicate n '.') := by
  have hdot {c : Char} (hc : c ∈ List.replicate n '.') : isBlank c = false := by
    rw [List.eq_of_mem_replicate hc]
    decide
  constructor
  · intro c hc
    cases s with
    | nil => exact hdot (List.mem_of_mem_head? hc)
    | cons d s => exact hhead c hc
  · intro c hc
    cases n with
    | zero =>
        rw [List.replicate_zero, List.append_nil] at hc
        exact hlast rfl c hc
    | succ n =>
        rw [List.getLast?_append_of_ne_nil _ (by simp)] at hc
        exact hdot (List.mem_of_getLast? hc)

theorem isAddressLiteral_text (a : Address) : isAddressLiteral a.text.toList = true := by
  have hread : Address.parse? a.text.toList = some a := Address.parse?_eq_some_iff.mpr rfl
  rw [isAddressLiteral, hread, Option.isSome_some, Bool.true_or]

theorem hostName?_eq (answer : List Char) (a : Address) : hostName? answer a =
    if stripped answer = [] ∨ isAddressLiteral (stripped answer) = true then none
    else some (String.ofList (stripped answer)) := by
  have hself : stripped answer = a.text.toList → isAddressLiteral (stripped answer) = true := by
    intro h
    rw [h]
    exact isAddressLiteral_text a
  show (if (stripped answer).isEmpty || isAddressLiteral (stripped answer) ||
    stripped answer = a.text.toList then none else some (String.ofList (stripped answer))) = _
  congr 1
  simp only [Bool.or_eq_true, List.isEmpty_iff, decide_eq_true_eq, eq_iff_iff]
  constructor
  · rintro ((h | h) | h)
    · exact .inl h
    · exact .inr h
    · exact .inr (hself h)
  · rintro (h | h)
    · exact .inl (.inl h)
    · exact .inl (.inr h)

theorem hostName?_eq_some_iff : hostName? answer a = some name ↔
    name.toList = stripped answer ∧ stripped answer ≠ [] ∧ isAddressLiteral (stripped answer) = false := by
  rw [hostName?_eq]
  split
  · next h =>
    refine iff_of_false (by simp) ?_
    rintro ⟨-, hne, hlit⟩
    rcases h with h | h
    · exact hne h
    · simp [hlit] at h
  · next h =>
    obtain ⟨hne, hlit⟩ := not_or.mp h
    rw [Option.some.injEq, ← String.toList_inj, String.toList_ofList, eq_comm]
    simp [hne, hlit]

theorem hostName?_eq_none_iff : hostName? answer a = none ↔
    stripped answer = [] ∨ isAddressLiteral (stripped answer) = true := by
  rw [hostName?_eq]
  split <;> simp [*]

/-! ## The ends of a name -/

/-- What is left does not begin with a blank. -/
theorem head?_stripped (answer : List Char) : ∀ c ∈ (stripped answer).head?, isBlank c = false := by
  intro c hc
  obtain ⟨-, n, -, -, -, hbare, -⟩ := exists_stripped answer
  obtain ⟨rest, hrest⟩ := List.head?_eq_some_iff.mp hc
  rw [hrest, List.cons_append] at hbare
  exact hbare.head c rfl

/-- What is left does not end with a dot. -/
theorem getLast?_stripped (answer : List Char) : ∀ c ∈ (stripped answer).getLast?, c ≠ '.' := by
  intro c hc
  obtain ⟨hne, rfl⟩ := List.mem_getLast?_eq_getLast hc
  have hlast := List.rdropWhile_last_not (· = '.') (trim answer) hne
  rwa [decide_eq_true_iff] at hlast

/-- **`stripped_ends_iff`** — what is left ends with a blank exactly if loose dots were taken. -/
theorem stripped_ends_iff (hne : stripped answer ≠ []) :
    (∃ c ∈ (stripped answer).getLast?, isBlank c = true) ↔ HasLooseDots answer := by
  constructor
  · rintro ⟨c, hc, hblank⟩
    obtain ⟨lead, n, trail, -, htrail, hbare, hanswer⟩ := exists_stripped answer
    obtain ⟨front, hfront⟩ := List.getLast?_eq_some_iff.mp hc
    rw [hfront] at hbare hanswer
    cases n with
    | zero =>
        -- Without dots the blank would have been trimmed.
        have hsolid := hbare.last c (by simp)
        rw [hblank] at hsolid
        cases hsolid
    | succ n =>
        refine ⟨lead ++ front, c, n, trail, hblank, htrail, ?_⟩
        rw [hanswer]
        simp
  · rintro ⟨front, c, n, trail, hblank, htrail, rfl⟩
    have hc : c ≠ '.' := by
      rintro rfl
      exact absurd hblank (by decide)
    obtain ⟨lead, mid, hlead, hmid, rfl⟩ := Text.exists_trimStart front
    cases mid with
    | nil =>
        -- Nothing but blanks stands in front of the dots, so nothing is left.
        have hall : allBlank (lead ++ [c]) = true := by simpa [allBlank, hblank] using hlead
        have hnil := stripped_eq (s := []) (n := n + 1) hall htrail (isBare_append_dots (by simp) (by simp))
          (by simp)
        have hshape : lead ++ [] ++ c :: (List.replicate (n + 1) '.' ++ trail) =
            lead ++ [c] ++ ([] ++ List.replicate (n + 1) '.') ++ trail := by simp
        rw [hshape] at hne
        exact absurd hnil hne
    | cons e mid =>
        have hlast : (e :: mid ++ [c]).getLast? = some c := List.getLast?_concat
        have hend : ∀ d ∈ (e :: mid ++ [c]).getLast?, d ≠ '.' := by
          rw [hlast]
          rintro d ⟨⟩
          exact hc
        have hleft := stripped_eq (n := n + 1) hlead htrail (isBare_append_dots (s := e :: mid ++ [c]) hmid (by simp)) hend
        have hshape : lead ++ e :: mid ++ c :: (List.replicate (n + 1) '.' ++ trail) =
            lead ++ (e :: mid ++ [c] ++ List.replicate (n + 1) '.') ++ trail := by simp
        rw [hshape, hleft]
        exact ⟨c, hlast, hblank⟩

/-- **`stripped_eq_self_iff`** — what neither begins nor ends with a blank, nor ends with a dot, is left as it is,
and nothing else. -/
theorem stripped_eq_self_iff : stripped s = s ↔ IsBare s ∧ ∀ c ∈ s.getLast?, c ≠ '.' := by
  constructor
  · intro hself
    obtain ⟨lead, n, trail, -, -, hbare, hparts⟩ := exists_stripped s
    have hlength := congrArg List.length hparts
    simp only [List.length_append, List.length_replicate, hself] at hlength
    have hn : n = 0 := by omega
    rw [hself, hn, List.replicate_zero, List.append_nil] at hbare
    refine ⟨hbare, ?_⟩
    rw [← hself]
    exact getLast?_stripped s
  · rintro ⟨hbare, hlast⟩
    have hself : stripped ([] ++ (s ++ List.replicate 0 '.') ++ []) = s :=
      stripped_eq rfl rfl (by simpa using hbare) hlast
    simpa using hself

/-! ## Literals with blanks and dots around them -/

/-- Blanks and dots. -/
def AreBlanksAndDots (s : List Char) : Prop := ∀ c ∈ s, isBlank c = true ∨ c = '.'

instance (s : List Char) : Decidable (AreBlanksAndDots s) :=
  decidable_of_iff (s.all (fun c => isBlank c || c == '.') = true)
    (by simp only [List.all_eq_true, Bool.or_eq_true, beq_iff_eq, AreBlanksAndDots])

/-- Behind blanks, the first of blanks and dots is a dot. -/
theorem AreBlanksAndDots.head?_eq (h : AreBlanksAndDots (s ++ t)) (ht : ∀ c ∈ t.head?, isBlank c = false) :
    ∀ c ∈ t.head?, c = '.' := by
  intro c hc
  have hmem : c ∈ s ++ t := List.mem_append_right s (List.mem_of_mem_head? hc)
  exact (h c hmem).resolve_left (by simp [ht c hc])

/-- Blanks and dots end with a blank, but for dots and other blanks behind these. -/
theorem AreBlanksAndDots.exists_back (h : AreBlanksAndDots s) : ∃ mid n blanks, allBlank blanks = true ∧
    (∀ c ∈ (mid : List Char).getLast?, isBlank c = true) ∧ (n = 0 → mid = []) ∧
    s = mid ++ List.replicate n '.' ++ blanks := by
  have hblanks : allBlank (s.rtakeWhile isBlank) = true := by
    apply List.all_eq_true.mpr
    intro c hc
    exact List.mem_rtakeWhile_imp hc
  have hs : s = dropEndWhile isBlank s ++ s.rtakeWhile isBlank := List.rdropWhile_append_rtakeWhile.symm
  have hend : ∀ c ∈ (dropEndWhile isBlank s).getLast?, isBlank c = false := by
    intro c hc
    obtain ⟨hne, rfl⟩ := List.mem_getLast?_eq_getLast hc
    rw [← Bool.not_eq_true]
    exact List.rdropWhile_last_not isBlank s hne
  obtain ⟨n, hn⟩ := exists_dropEndWhile_dot (dropEndWhile isBlank s)
  have hmid : ∀ c ∈ (dropEndWhile (· = '.') (dropEndWhile isBlank s)).getLast?, isBlank c = true := by
    intro c hc
    have hmem : c ∈ s := by
      rw [hs, hn]
      simp [List.mem_of_getLast? hc]
    obtain ⟨hne, rfl⟩ := List.mem_getLast?_eq_getLast hc
    have hdot := List.rdropWhile_last_not (· = '.') (dropEndWhile isBlank s) hne
    rw [decide_eq_true_iff] at hdot
    exact (h _ hmem).resolve_right hdot
  generalize dropEndWhile (· = '.') (dropEndWhile isBlank s) = mid at hn hmid
  rw [hn] at hs hend
  refine ⟨mid, n, _, hblanks, hmid, ?_, hs⟩
  -- Without dots the last blank would be one of those at the end.
  rintro rfl
  rcases List.eq_nil_or_concat mid with hnil | ⟨front, c, rfl⟩
  · exact hnil
  · have hsolid := hend c (by simp)
    rw [hmid c (by simp)] at hsolid
    cases hsolid

/-- **`hostName?_literal`** — a literal among blanks and dots is told from a name exactly if the dots follow it
at once and nothing but blanks stands in front of it. -/
theorem hostName?_literal (hlit : isAddressLiteral lit = true) (hlead : AreBlanksAndDots lead)
    (htrail : AreBlanksAndDots trail) : hostName? (lead ++ lit ++ trail) a = none ↔
      allBlank lead = true ∧ ∃ n blanks, allBlank blanks = true ∧ trail = List.replicate n '.' ++ blanks := by
  have htight := isTight_of_isAddressLiteral hlit
  have hne := ne_nil_of_isAddressLiteral hlit
  constructor
  · intro h
    obtain ⟨front, dots, hfront, hdots, rfl⟩ := Text.exists_trimStart lead
    have hdots := hlead.head?_eq hdots
    obtain ⟨mid, n, back, hback, hmid, hzero, rfl⟩ := htrail.exists_back
    have hwhole : dots ++ lit ++ mid ≠ [] := by simp [hne]
    have hbare : IsBare (dots ++ lit ++ mid ++ List.replicate n '.') := by
      apply isBare_append_dots
      · intro c hc
        cases dots with
        | nil =>
            rw [List.nil_append, List.head?_append_of_ne_nil _ hne] at hc
            exact htight.solid c (List.mem_of_mem_head? hc)
        | cons d dots =>
            rw [hdots c hc]
            decide
      · intro hn c hc
        rw [hzero hn, List.append_nil, List.getLast?_append_of_ne_nil _ hne] at hc
        exact htight.solid c (List.mem_of_getLast? hc)
    have hlast : ∀ c ∈ (dots ++ lit ++ mid).getLast?, c ≠ '.' := by
      intro c hc
      rcases List.eq_nil_or_concat mid with rfl | ⟨mid, d, rfl⟩
      · rw [List.append_nil, List.getLast?_append_of_ne_nil _ hne] at hc
        exact htight.last c hc
      · rw [List.getLast?_append_of_ne_nil _ (by simp)] at hc
        rintro rfl
        exact absurd (hmid _ hc) (by decide)
    have hleft := stripped_eq hfront hback hbare hlast
    have hshape : front ++ dots ++ lit ++ (mid ++ List.replicate n '.' ++ back) =
        front ++ (dots ++ lit ++ mid ++ List.replicate n '.') ++ back := by simp
    rw [hostName?_eq_none_iff, hshape, hleft] at h
    -- What is left is a literal too, so nothing but the literal itself is left.
    have hagain := isTight_of_isAddressLiteral (h.resolve_left hwhole)
    have hdots : dots = [] := by
      cases dots with
      | nil => rfl
      | cons d dots => exact absurd (hdots d rfl) (hagain.head d rfl)
    have hmid : mid = [] := by
      rcases List.eq_nil_or_concat mid with hnil | ⟨mid, d, rfl⟩
      · exact hnil
      · have hblank := hmid d (by simp)
        rw [hagain.solid d (by simp)] at hblank
        cases hblank
    rw [hdots, hmid]
    refine ⟨by simpa using hfront, n, back, hback, by simp⟩
  · rintro ⟨hblank, n, blanks, hblanks, rfl⟩
    have hbare : IsBare (lit ++ List.replicate n '.') := by
      apply isBare_append_dots
      · intro c hc
        exact htight.solid c (List.mem_of_mem_head? hc)
      · intro _ c hc
        exact htight.solid c (List.mem_of_getLast? hc)
    have hleft := stripped_eq hblank hblanks hbare htight.last
    have hshape : lead ++ lit ++ (List.replicate n '.' ++ blanks) =
        lead ++ (lit ++ List.replicate n '.') ++ blanks := by simp
    rw [hostName?_eq_none_iff, hshape, hleft]
    exact .inr hlit

/-! ## Names -/

/-- **`name_of_answer`** — whatever the answer. A name is not empty or a literal, does not begin with a blank and
does not end with a dot, and only loose dots in the answer let it end with a blank or make it another name when
it is taken for an answer. Of the answers that are a literal among blanks and dots, those with nothing but dots
and then blanks behind it, and with blanks in front, give no name, and no others. -/
theorem name_of_answer (answer : List Char) (a : Address) :
    (∀ name, hostName? answer a = some name →
      name ≠ "" ∧ (∀ c ∈ name.toList.head?, isBlank c = false) ∧ (∀ c ∈ name.toList.getLast?, c ≠ '.') ∧
      isAddressLiteral name.toList = false ∧
      ((∀ c ∈ name.toList.getLast?, isBlank c = false) ↔ ¬ HasLooseDots answer) ∧
      ∀ b, hostName? name.toList b = some name ↔ ¬ HasLooseDots answer) ∧
    ∀ lead lit trail, answer = lead ++ lit ++ trail → isAddressLiteral lit = true →
      AreBlanksAndDots lead → AreBlanksAndDots trail → (hostName? answer a = none ↔
        allBlank lead = true ∧ ∃ n blanks, allBlank blanks = true ∧ trail = List.replicate n '.' ++ blanks) := by
  constructor
  · intro name hname
    obtain ⟨htext, hne, hlit⟩ := hostName?_eq_some_iff.mp hname
    have hends : (∀ c ∈ (stripped answer).getLast?, isBlank c = false) ↔ ¬ HasLooseDots answer := by
      rw [← stripped_ends_iff hne]
      simp
    rw [htext]
    refine ⟨?_, head?_stripped answer, getLast?_stripped answer, hlit, hends, fun b => ?_⟩
    · rintro rfl
      exact hne htext.symm
    · rw [hostName?_eq_some_iff, htext, ← hends, eq_comm, stripped_eq_self_iff]
      constructor
      · rintro ⟨⟨hbare, -⟩, -, -⟩
        exact hbare.last
      · intro hlast
        have hself := stripped_eq_self_iff.mpr ⟨⟨head?_stripped answer, hlast⟩, getLast?_stripped answer⟩
        rw [hself]
        exact ⟨⟨⟨head?_stripped answer, hlast⟩, getLast?_stripped answer⟩, hne, hlit⟩
  · rintro lead lit trail rfl hlit hlead htrail
    exact hostName?_literal hlit hlead htrail

/-- A name with blanks around it and a dot behind it, and an address with dots and a blank behind it. -/
theorem nas_named :
    hostName? " nas.lan. ".toList ⟨192, 168, 1, 20⟩ = some "nas.lan" ∧
    (∀ b, hostName? "nas.lan".toList b = some "nas.lan") ∧
    hostName? "\t192.168.1.20.. ".toList ⟨192, 168, 1, 20⟩ = none := by
  have hname : hostName? " nas.lan. ".toList ⟨192, 168, 1, 20⟩ = some "nas.lan" := by decide +kernel
  obtain ⟨-, -, -, -, hends, hself⟩ := (name_of_answer " nas.lan. ".toList ⟨192, 168, 1, 20⟩).1 _ hname
  refine ⟨hname, fun b => ?_, ?_⟩
  · rw [hself, ← hends]
    intro c hc
    obtain rfl : 'n' = c := Option.some.inj hc
    rfl
  · have hnone := (name_of_answer "\t192.168.1.20.. ".toList ⟨192, 168, 1, 20⟩).2 "\t".toList
      "192.168.1.20".toList ".. ".toList (by decide) (by decide)
    rw [hnone (by decide) (by decide)]
    exact ⟨by decide, 2, [' '], by decide, rfl⟩

/-- An address with a blank and a dot behind it passes for a name, though the name for itself does not. -/
theorem address_named : hostName? "192.168.1.20 .".toList ⟨192, 168, 1, 20⟩ = some "192.168.1.20 " ∧
    hostName? "192.168.1.20 ".toList ⟨192, 168, 1, 20⟩ = none := by
  decide +kernel

end LanCensus
