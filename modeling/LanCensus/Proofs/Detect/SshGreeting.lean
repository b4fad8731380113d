/-
# LanCensus.Proofs.Detect.SshGreeting -- a greeting however it arrives

What a server sends arrives in pieces, and each read waits for one line only. Neither where the pieces are cut
nor how the time is spread over them changes what is read, as long as each line is complete in its own time. So
the label of a server is that of the bytes it sends, cut at their line feeds (`label_of_lines`).
-/

import LanCensus.Detect.SshGreeting
import LanCensus.Proofs.Text.Blank
import LanCensus.Proofs.Text.Letter
import LanCensus.Proofs.Text.Utf8
import Mathlib.Data.List.Find

namespace LanCensus.Detect

/-! ## What arrives, and when -/

namespace Inflow

/-- All bytes that have not been used, those that are still to arrive included. -/
def bytes (f : Inflow) : List UInt8 := f.buffer ++ f.pieces.flatMap (·.bytes)

/-- The instants at which the lines of some pieces are complete: that of its piece for each line feed, and the
end of the server for what follows the last one. -/
def completionsFrom (ends : Option Nat) : Nat → List Piece → List Nat
  | now, [] => (ends.map (now + ·)).toList
  | now, p :: more =>
    List.replicate (p.bytes.count 0x0A) (now + p.delay) ++ completionsFrom ends (now + p.delay) more

/-- The instants at which the next lines are complete. -/
def completions (f : Inflow) : List Nat :=
  List.replicate (f.buffer.count 0x0A) f.now ++ completionsFrom f.ends f.now f.pieces

/-- **`InTime f wait n`** — each of the next `n` lines, or the end in its place, arrives within `wait`
milliseconds after the line before it. -/
def InTime (f : Inflow) (wait n : Nat) : Prop :=
  n ≤ f.completions.length ∧ (f.now :: f.completions.take n).IsChain fun s t => t ≤ s + wait

/-- While no line feed has arrived, the pieces that are still to arrive tell when the next line is complete. -/
theorem completions_of_not_mem {buffer : List UInt8} (h : 0x0A ∉ buffer) (now : Nat) (pieces : List Piece)
    (ends : Option Nat) :
    (Inflow.mk now buffer pieces ends).completions = completionsFrom ends now pieces := by
  rw [completions, List.count_eq_zero.mpr h, List.replicate_zero, List.nil_append]

/-- Nothing is complete before now. -/
theorem now_le_of_mem_completions {f : Inflow} {t : Nat} (h : t ∈ f.completions) : f.now ≤ t := by
  obtain ⟨now, buffer, pieces, ends⟩ := f
  induction pieces generalizing now buffer with
  | nil =>
      rcases List.mem_append.mp h with hbuffer | hend
      · rw [List.eq_of_mem_replicate hbuffer]
      · obtain ⟨delay, -, rfl⟩ := Option.map_eq_some_iff.mp (Option.mem_toList.mp hend)
        exact Nat.le_add_right now delay
  | cons p more ih =>
      rcases List.mem_append.mp h with hbuffer | hmore
      · rw [List.eq_of_mem_replicate hbuffer]
      · exact (Nat.le_add_right now p.delay).trans (ih (now + p.delay) p.bytes hmore)

theorem inTime_succ_iff {f g : Inflow} {wait n : Nat} (h : f.completions = g.now :: g.completions) :
    f.InTime wait (n + 1) ↔ g.now ≤ f.now + wait ∧ g.InTime wait n := by
  rw [InTime, InTime, h, List.take_succ_cons, List.isChain_cons_cons, List.length_cons, Nat.succ_le_succ_iff]
  exact and_left_comm

theorem inTime_zero (f : Inflow) (wait : Nat) : f.InTime wait 0 :=
  ⟨Nat.zero_le _, .singleton f.now⟩

/-- Of lines that arrive in time, the first does. -/
theorem InTime.first {f : Inflow} {wait n : Nat} (h : f.InTime wait (n + 1)) :
    ∃ t, t ∈ f.completions.head? ∧ t ≤ f.now + wait := by
  obtain ⟨hcount, hchain⟩ := h
  cases hcompletions : f.completions with
  | nil => simp [hcompletions] at hcount
  | cons t later =>
      rw [hcompletions, List.take_succ_cons, List.isChain_cons_cons] at hchain
      exact ⟨t, rfl, hchain.1⟩

/-! ## One read -/

/-- **`Reads deadline f read`** — what comes of waiting for the next line until a deadline. -/
inductive Reads (deadline : Nat) (f : Inflow) : Option (List UInt8 × Inflow) → Prop
  /-- Its line feed arrives in time. -/
  | line {raw : List UInt8} {g : Inflow} : 0x0A ∉ raw → f.bytes = raw ++ 0x0A :: g.bytes →
      f.completions = g.now :: g.completions → g.now ≤ deadline → Reads deadline f (some (raw ++ [0x0A], g))
  /-- The server ends in time. -/
  | rest {raw : List UInt8} {g : Inflow} : 0x0A ∉ raw → f.bytes = raw → g.bytes = [] → f.completions = [g.now] →
      g.now ≤ deadline → Reads deadline f (some (raw, g))
  /-- Neither comes in time. -/
  | late : (∀ t ∈ f.completions.head?, deadline < t) → Reads deadline f none

/-- Where the bytes are, and in which pieces, does not matter. -/
theorem Reads.congr {deadline : Nat} {f g : Inflow} {read : Option (List UInt8 × Inflow)}
    (hbytes : g.bytes = f.bytes) (hcompletions : g.completions = f.completions) (h : Reads deadline g read) :
    Reads deadline f read := by
  cases h with
  | line hraw hline htime hdeadline =>
      exact .line hraw (hbytes ▸ hline) (hcompletions ▸ htime) hdeadline
  | rest hraw hrest hend htime hdeadline =>
      exact .rest hraw (hbytes ▸ hrest) hend (hcompletions ▸ htime) hdeadline
  | late hlate => exact .late (hcompletions ▸ hlate)

end Inflow

theorem cutLine_eq_none_iff {bytes : List UInt8} : cutLine bytes = none ↔ 0x0A ∉ bytes := by
  induction bytes with
  | nil => simp [cutLine]
  | cons b rest ih =>
      rw [cutLine, List.mem_cons, not_or, ← ih]
      split
      · next hb => simp [hb]
      · next hb => simp [Ne.symm hb]

theorem cutLine_eq_some {bytes line rest : List UInt8} (h : cutLine bytes = some (line, rest)) :
    ∃ raw, 0x0A ∉ raw ∧ line = raw ++ [0x0A] ∧ bytes = raw ++ 0x0A :: rest := by
  induction bytes generalizing line with
  | nil => cases h
  | cons b more ih =>
      rw [cutLine] at h
      split at h
      · next hb =>
        cases h
        exact ⟨[], List.not_mem_nil, by rw [hb, List.nil_append], by rw [hb, List.nil_append]⟩
      · next hb =>
        obtain ⟨⟨line', rest'⟩, hcut, hline⟩ := Option.map_eq_some_iff.mp h
        cases hline
        obtain ⟨raw, hraw, rfl, rfl⟩ := ih hcut
        exact ⟨b :: raw, by simp [Ne.symm hb, hraw], rfl, rfl⟩

/-- A line that has arrived already is there at once. -/
theorem reads_of_cut {deadline now : Nat} {buffer : List UInt8} (hnow : now ≤ deadline)
    {cut : List UInt8 × List UInt8} (h : cutLine buffer = some cut) (ends : Option Nat) (pieces : List Piece) :
    Inflow.Reads deadline ⟨now, buffer, pieces, ends⟩ (takeLine deadline ends now pieces buffer) := by
  obtain ⟨line, rest⟩ := cut
  obtain ⟨raw, hraw, rfl, rfl⟩ := cutLine_eq_some h
  unfold takeLine
  simp only [h]
  refine .line hraw ?_ ?_ hnow
  · simp [Inflow.bytes]
  · simp [Inflow.completions, List.count_eq_zero.mpr hraw, List.replicate_succ]

/-- **`reads_takeLine`** — the induction is on the pieces that are still to arrive: each moves to the buffer
when it does, which changes neither the bytes nor their instants. -/
theorem reads_takeLine {deadline now : Nat} (hnow : now ≤ deadline) (ends : Option Nat) (pieces : List Piece)
    (buffer : List UInt8) :
    Inflow.Reads deadline ⟨now, buffer, pieces, ends⟩ (takeLine deadline ends now pieces buffer) := by
  induction pieces generalizing now buffer with
  | nil =>
      cases hcut : cutLine buffer with
      | some cut => exact reads_of_cut hnow hcut ends []
      | none =>
          have hraw := cutLine_eq_none_iff.mp hcut
          have hcompletions := Inflow.completions_of_not_mem hraw now [] ends
          unfold takeLine
          simp only [hcut]
          cases ends with
          | none => exact .late (by rw [hcompletions]; nofun)
          | some delay =>
              by_cases hdelay : now + delay ≤ deadline
              · simp only [if_pos hdelay]
                exact .rest hraw (List.append_nil buffer) rfl hcompletions hdelay
              · simp only [if_neg hdelay]
                refine .late ?_
                rw [hcompletions]
                rintro t ⟨⟩
                exact Nat.lt_of_not_le hdelay
  | cons p more ih =>
      cases hcut : cutLine buffer with
      | some cut => exact reads_of_cut hnow hcut ends (p :: more)
      | none =>
          have hraw := cutLine_eq_none_iff.mp hcut
          have hcompletions : (Inflow.mk now buffer (p :: more) ends).completions =
              (Inflow.mk (now + p.delay) p.bytes more ends).completions :=
            Inflow.completions_of_not_mem hraw now (p :: more) ends
          unfold takeLine
          simp only [hcut]
          by_cases hdelay : now + p.delay ≤ deadline
          · rw [if_pos hdelay]
            refine (ih hdelay (buffer ++ p.bytes)).congr ?_ ?_
            · simp [Inflow.bytes]
            · rw [hcompletions]
              simp [Inflow.completions, List.count_eq_zero.mpr hraw]
          · rw [if_neg hdelay]
            refine .late fun t ht => ?_
            rw [hcompletions] at ht
            exact (Nat.lt_of_not_le hdelay).trans_le (Inflow.now_le_of_mem_completions (List.mem_of_mem_head? ht))

/-- **`reads_line`** — what comes of the next read. -/
theorem reads_line (wait : Nat) (f : Inflow) : Inflow.Reads (f.now + wait) f (f.line wait) :=
  reads_takeLine (Nat.le_add_right f.now wait) f.ends f.pieces f.buffer

/-! ## The greeting among the lines -/

/-- **`Greets rows n line`** — of rows of bytes, the first that is a greeting is number `n`, counted from zero,
and reads `line`; it and all rows before it are texts. -/
def Greets (rows : List (List UInt8)) (n : Nat) (line : List Char) : Prop :=
  ∃ before raw after, rows = before ++ raw :: after ∧ before.length = n ∧
    Text.Utf8.decode? raw = some line ∧ isGreeting line = true ∧
    ∀ r ∈ before, ∃ text, Text.Utf8.decode? r = some text ∧ isGreeting text = false

theorem Greets.isGreeting {rows : List (List UInt8)} {n : Nat} {line : List Char} (h : Greets rows n line) :
    isGreeting line = true := by
  obtain ⟨before, raw, after, -, -, -, hgreeting, -⟩ := h
  exact hgreeting

theorem greets_cons_iff {raw : List UInt8} {rows : List (List UInt8)} {n : Nat} {line : List Char} :
    Greets (raw :: rows) n line ↔
      (n = 0 ∧ Text.Utf8.decode? raw = some line ∧ isGreeting line = true) ∨
      ∃ m text, n = m + 1 ∧ Text.Utf8.decode? raw = some text ∧ isGreeting text = false ∧ Greets rows m line := by
  constructor
  · rintro ⟨before, row, after, hrows, rfl, hline, hgreeting, hbefore⟩
    cases before with
    | nil =>
        cases hrows
        exact .inl ⟨rfl, hline, hgreeting⟩
    | cons first before =>
        cases hrows
        obtain ⟨⟨text, htext, hother⟩, hbefore⟩ := List.forall_mem_cons.mp hbefore
        exact .inr ⟨before.length, text, rfl, htext, hother, before, row, after, rfl, rfl, hline, hgreeting, hbefore⟩
  · rintro (⟨rfl, hline, hgreeting⟩ | ⟨m, text, rfl, htext, hother, before, row, after, rfl, rfl, hline, hgreeting,
      hbefore⟩)
    · exact ⟨[], raw, rows, rfl, rfl, hline, hgreeting, nofun⟩
    · exact ⟨raw :: before, row, after, rfl, rfl, hline, hgreeting,
        List.forall_mem_cons.mpr ⟨⟨text, htext, hother⟩, hbefore⟩⟩

/-- A greeting with some property is the first row, or else it is among those after it. -/
theorem exists_greets_cons_iff {raw : List UInt8} {rows : List (List UInt8)} {limit : Nat}
    {P : Nat → List Char → Prop} :
    (∃ n line, n < limit + 1 ∧ Greets (raw :: rows) n line ∧ P n line) ↔
      ∃ text, Text.Utf8.decode? raw = some text ∧
        if isGreeting text then P 0 text else ∃ n line, n < limit ∧ Greets rows n line ∧ P (n + 1) line := by
  constructor
  · rintro ⟨n, line, hn, hgreets, hP⟩
    rcases greets_cons_iff.mp hgreets with ⟨rfl, hline, hgreeting⟩ | ⟨m, text, rfl, htext, hother, hrest⟩
    · exact ⟨line, hline, by rwa [if_pos hgreeting]⟩
    · refine ⟨text, htext, ?_⟩
      rw [hother, if_neg Bool.false_ne_true]
      exact ⟨m, line, Nat.lt_of_succ_lt_succ hn, hrest, hP⟩
  · rintro ⟨text, htext, h⟩
    split at h
    · next hgreeting => exact ⟨0, text, Nat.succ_pos limit, greets_cons_iff.mpr (.inl ⟨rfl, htext, hgreeting⟩), h⟩
    · next hother =>
      obtain ⟨n, line, hn, hrest, hP⟩ := h
      refine ⟨n + 1, line, Nat.succ_lt_succ hn, greets_cons_iff.mpr (.inr ?_), hP⟩
      exact ⟨n, text, rfl, htext, Bool.eq_false_iff.mpr hother, hrest⟩

theorem not_greets_nil {n : Nat} {line : List Char} : ¬ Greets [] n line := by
  rintro ⟨before, raw, after, hrows, -⟩
  exact List.append_ne_nil_of_right_ne_nil before (List.cons_ne_nil raw after) hrows.symm

/-- At most one row is the first that is a greeting. -/
theorem Greets.unique {rows : List (List UInt8)} {n m : Nat} {line line' : List Char} (h : Greets rows n line)
    (h' : Greets rows m line') : m = n ∧ line' = line := by
  induction rows generalizing n m with
  | nil => exact absurd h not_greets_nil
  | cons raw rows ih =>
      rcases greets_cons_iff.mp h with ⟨rfl, hline, hgreeting⟩ | ⟨k, text, rfl, htext, hother, hrest⟩
      · rcases greets_cons_iff.mp h' with ⟨rfl, hline', -⟩ | ⟨k, text, rfl, htext, hother, -⟩
        · exact ⟨rfl, Option.some_inj.mp (hline'.symm.trans hline)⟩
        · cases htext.symm.trans hline
          exact absurd hgreeting (Bool.eq_false_iff.mp hother)
      · rcases greets_cons_iff.mp h' with ⟨rfl, hline', hgreeting⟩ | ⟨k', text', rfl, -, -, hrest'⟩
        · cases htext.symm.trans hline'
          exact absurd hgreeting (Bool.eq_false_iff.mp hother)
        · obtain ⟨rfl, rfl⟩ := ih hrest hrest'
          exact ⟨rfl, rfl⟩

theorem isGreeting_iff {line : List Char} : isGreeting line = true ↔ "SSH-".toList <+: line :=
  List.isPrefixOf_iff_prefix

theorem isBlank_of_mem_ssh : ∀ c ∈ "SSH-".toList, Text.isBlank c = false := by
  have h : ("SSH-".toList.all fun c => !Text.isBlank c) = true := by decide
  simpa only [List.all_eq_true, Bool.not_eq_true'] using h

/-- Blanks at the end do not make a greeting, nor keep one from being one. -/
theorem isGreeting_append_blank {line trail : List Char} (h : Text.allBlank trail = true) :
    isGreeting (line ++ trail) = isGreeting line := by
  rw [Bool.eq_iff_iff, isGreeting_iff, isGreeting_iff, Text.prefix_append_blank isBlank_of_mem_ssh h]

theorem isGreeting_trim {line : List Char} (h : isGreeting line = true) : isGreeting (Text.trim line) = true := by
  obtain ⟨lead, trail, hlead, htrail, hline⟩ := Text.exists_trim line
  rw [isGreeting_iff, hline, List.append_assoc] at h
  have hrest := Text.prefix_of_prefix_blank_append isBlank_of_mem_ssh hlead h
  exact isGreeting_iff.mpr ((Text.prefix_append_blank isBlank_of_mem_ssh htrail).mp hrest)

/-! ## The label of a greeting -/

/-- **`HasLabel line label`** — the label stands for the first hint that occurs in the line, in letters of any
case, or it is the plain one and no hint occurs. -/
inductive HasLabel (line : List Char) : String → Prop
  | hint {before after : List (String × String)} {hint label : String} :
      greetingHints = before ++ (hint, label) :: after → hint.toList <:+: Text.lower line →
      (∀ h ∈ before, ¬ h.1.toList <:+: Text.lower line) → HasLabel line label
  | plain : (∀ h ∈ greetingHints, ¬ h.1.toList <:+: Text.lower line) → HasLabel line plainSshLabel

theorem labelOfGreeting_eq {line : List Char} (h : isGreeting line = true) : labelOfGreeting line =
    some (((greetingHints.find? fun k => Text.occursIn k.1.toList (Text.lower line)).map (·.2)).getD
      plainSshLabel) := if_pos h

theorem labelOfGreeting_eq_some_iff {line : List Char} (h : isGreeting line = true) {label : String} :
    labelOfGreeting line = some label ↔ HasLabel line label := by
  have hoccurs {k : String × String} :
      Text.occursIn k.1.toList (Text.lower line) = true ↔ k.1.toList <:+: Text.lower line := Text.occursIn_iff
  rw [labelOfGreeting_eq h, Option.some_inj]
  constructor
  · rintro rfl
    cases hfind : greetingHints.find? fun k => Text.occursIn k.1.toList (Text.lower line) with
    | none =>
        refine .plain fun k hk hinfix => ?_
        exact List.find?_eq_none.mp hfind k hk (hoccurs.mpr hinfix)
    | some k =>
        obtain ⟨hk, before, after, hhints, hbefore⟩ := List.find?_eq_some_iff_append.mp hfind
        refine .hint hhints (hoccurs.mp hk) fun j hj hinfix => ?_
        have habsent := hbefore j hj
        rw [hoccurs.mpr hinfix] at habsent
        cases habsent
  · intro hlabel
    cases hlabel with
    | @hint before after hint label hhints hinfix hbefore =>
        have hfind :
            (greetingHints.find? fun k => Text.occursIn k.1.toList (Text.lower line)) = some (hint, label) := by
          refine List.find?_eq_some_iff_append.mpr ⟨hoccurs.mpr hinfix, before, after, hhints, fun j hj => ?_⟩
          rw [Bool.not_eq_true', ← Bool.not_eq_true]
          exact fun hearlier => hbefore j hj (hoccurs.mp hearlier)
        rw [hfind]
        rfl
    | plain hnone =>
        have hfind : (greetingHints.find? fun k => Text.occursIn k.1.toList (Text.lower line)) = none :=
          List.find?_eq_none.mpr fun k hk hpresent => hnone k hk (hoccurs.mp hpresent)
        rw [hfind]
        rfl

theorem isBlank_of_mem_hint : ∀ k ∈ greetingHints, ∀ c ∈ k.1.toList, Text.isBlank c = false := by
  have h : (greetingHints.all fun k => k.1.toList.all fun c => !Text.isBlank c) = true := by decide
  simpa only [List.all_eq_true, Bool.not_eq_true'] using h

/-- The hints are looked for in what trimming leaves of a line, which makes no difference. -/
theorem labelOfGreeting_trim {line trail : List Char} (h : isGreeting line = true)
    (htrail : Text.allBlank trail = true) :
    labelOfGreeting (Text.trim (line ++ trail)) = labelOfGreeting line := by
  have hlong : isGreeting (line ++ trail) = true := (isGreeting_append_blank htrail).trans h
  rw [labelOfGreeting_eq (isGreeting_trim hlong), labelOfGreeting_eq h]
  refine congrArg (fun found => some ((Option.map _ found).getD plainSshLabel)) (List.find?_congr fun k hk => ?_)
  have hsolid := isBlank_of_mem_hint k hk
  obtain ⟨lead, rest, hlead, hrest, hline⟩ := Text.exists_trim (line ++ trail)
  rw [Bool.eq_iff_iff, Text.occursIn_iff, Text.occursIn_iff]
  calc k.1.toList <:+: Text.lower (Text.trim (line ++ trail))
      ↔ k.1.toList <:+: lead ++ Text.lower (Text.trim (line ++ trail)) ++ rest := by
        rw [Text.infix_append_blank hsolid hrest, Text.infix_blank_append hsolid hlead]
    _ ↔ k.1.toList <:+: Text.lower (line ++ trail) := by
        rw [← Text.lower_blank_append hlead, ← Text.lower_append_blank hrest, ← hline]
    _ ↔ k.1.toList <:+: Text.lower line := by
        rw [Text.lower_append_blank htrail, Text.infix_append_blank hsolid htrail]

/-! ## The first lines of a server -/

/-- A line feed at the end of a row ends its text. -/
theorem decode?_append_feed (raw : List UInt8) :
    Text.Utf8.decode? (raw ++ [0x0A]) = (Text.Utf8.decode? raw).map (· ++ ['\n']) := by
  rw [Text.Utf8.decode?_append, Text.Utf8.decode?_nil]
  cases Text.Utf8.decode? raw <;> rfl

/-- A row that the server ends without one is its text as it stands. -/
theorem decode?_append_nil (raw : List UInt8) :
    Text.Utf8.decode? raw = (Text.Utf8.decode? raw).map (· ++ []) := by
  simp only [List.append_nil, Option.map_id']

/-- **`label_of_row`** — what one read makes of a row that ends with `trail`: a line feed, or nothing if the server
has ended. -/
theorem label_of_row {wait : Nat} {f g : Inflow} {raw row : List UInt8} {trail : List Char}
    (hline : f.line wait = some (row, g))
    (hrow : Text.Utf8.decode? row = (Text.Utf8.decode? raw).map (· ++ trail)) (htrail : Text.allBlank trail = true)
    (limit : Nat) :
    (greetingWithin wait (limit + 1) f).bind labelOfGreeting = (Text.Utf8.decode? raw).bind fun text =>
      if isGreeting text then labelOfGreeting text
      else if text ++ trail = [] then none else (greetingWithin wait limit g).bind labelOfGreeting := by
  cases htext : Text.Utf8.decode? raw with
  | none => simp only [greetingWithin, hline, hrow, htext, Option.map_none, Option.bind_none]
  | some text =>
      have hfirst : greetingWithin wait (limit + 1) f =
          if text ++ trail = [] then none
          else if isGreeting (text ++ trail) then some (Text.trim (text ++ trail))
          else greetingWithin wait limit g := by
        simp only [greetingWithin, hline, hrow, htext, Option.map_some]
        cases text ++ trail <;> rfl
      rw [hfirst, Option.bind_some, isGreeting_append_blank htrail]
      cases hgreeting : isGreeting text with
      | true =>
          have hne : text ++ trail ≠ [] := fun h => by
            rw [(List.append_eq_nil_iff.mp h).1] at hgreeting
            cases hgreeting
          rw [if_neg hne, if_pos rfl, if_pos rfl, Option.bind_some, labelOfGreeting_trim hgreeting htrail]
      | false =>
          rw [if_neg Bool.false_ne_true, if_neg Bool.false_ne_true]
          split <;> rfl

/-- Nothing is found at the end. -/
theorem label_of_end {f : Inflow} (h : f.bytes = []) (wait limit : Nat) :
    (greetingWithin wait limit f).bind labelOfGreeting = none := by
  cases limit with
  | zero => rfl
  | succ limit =>
      have hread := reads_line wait f
      generalize hline : f.line wait = read at hread
      cases hread with
      | line hraw hbytes => simp [h] at hbytes
      | @rest raw g hraw hbytes =>
          obtain rfl : [] = raw := h.symm.trans hbytes
          rw [label_of_row hline (decode?_append_nil []) rfl, Text.Utf8.decode?_nil]
          rfl
      | late => simp only [greetingWithin, hline, Option.bind_none]

/-- **`label_within_iff`** — the label is that of the first greeting, if it and all lines before it arrive in
time. The induction is on the number of lines: a read takes the first row off the bytes and the first instant off
the completions. -/
theorem label_within_iff (wait limit : Nat) (f : Inflow) (label : String) :
    (greetingWithin wait limit f).bind labelOfGreeting = some label ↔
      ∃ n line, n < limit ∧ Greets (f.bytes.splitOn 0x0A) n line ∧ f.InTime wait (n + 1) ∧
        labelOfGreeting line = some label := by
  induction limit generalizing f with
  | zero => simp [greetingWithin]
  | succ limit ih =>
      have hread := reads_line wait f
      generalize hline : f.line wait = read at hread
      cases hread with
      | late hlate =>
          have hnone : greetingWithin wait (limit + 1) f = none := by simp only [greetingWithin, hline]
          rw [hnone]
          refine iff_of_false nofun ?_
          rintro ⟨n, line, -, -, htime, -⟩
          obtain ⟨t, hfirst, ht⟩ := htime.first
          exact absurd (hlate t hfirst) (Nat.not_lt_of_le ht)
      | @line raw g hraw hbytes hcompletions hdeadline =>
          have hrows : f.bytes.splitOn 0x0A = raw :: g.bytes.splitOn 0x0A := by
            rw [hbytes, List.splitOn_append_cons_self_of_not_mem hraw]
          have htime (n : Nat) : f.InTime wait (n + 1) ↔ g.InTime wait n :=
            (Inflow.inTime_succ_iff hcompletions).trans (and_iff_right hdeadline)
          simp only [hrows, htime]
          rw [label_of_row hline (decode?_append_feed raw) (by decide), Option.bind_eq_some_iff,
            exists_greets_cons_iff]
          refine exists_congr fun text => and_congr_right fun _ => ?_
          split
          · exact (and_iff_right (g.inTime_zero wait)).symm
          · rw [if_neg (List.concat_ne_nil '\n' text)]
            exact ih g
      | @rest raw g hraw hbytes hend hcompletions hdeadline =>
          have hrows : f.bytes.splitOn 0x0A = [raw] := by rw [hbytes, List.splitOn_eq_singleton hraw]
          have htime : f.InTime wait 1 := by simpa [Inflow.InTime, hcompletions] using hdeadline
          rw [hrows, label_of_row hline (decode?_append_nil raw) rfl, Option.bind_eq_some_iff,
            exists_greets_cons_iff]
          refine exists_congr fun text => and_congr_right fun _ => ?_
          split
          · exact (and_iff_right htime).symm
          · rw [label_of_end hend, ite_self]
            refine iff_of_false nofun ?_
            rintro ⟨n, line, -, hgreets, -⟩
            exact not_greets_nil hgreets

/-! ## The label of a server -/

/-- **`f.IsPunctual wait`** — up to the greeting, if one of the lines that are looked at is one, each line arrives
in the time it has. -/
def Inflow.IsPunctual (f : Inflow) (wait : Nat) : Prop :=
  ∀ n line, n < greetingLines → Greets (f.bytes.splitOn 0x0A) n line → f.InTime wait (n + 1)

theorem isPunctual_of_greets {f : Inflow} {wait n : Nat} {line : List Char}
    (h : Greets (f.bytes.splitOn 0x0A) n line) (htime : f.InTime wait (n + 1)) : f.IsPunctual wait := by
  intro m line' _ h'
  rwa [(h.unique h').1]

theorem labelByGreeting_eq_some_iff {wait : Nat} {f : Inflow} {label : String} :
    labelByGreeting wait f = some label ↔
      ∃ n line, n < greetingLines ∧ Greets (f.bytes.splitOn 0x0A) n line ∧ f.InTime wait (n + 1) ∧
        HasLabel line label := by
  rw [labelByGreeting, label_within_iff]
  refine exists_congr fun n => exists_congr fun line => and_congr_right fun _ => and_congr_right fun hgreets => ?_
  rw [labelOfGreeting_eq_some_iff hgreets.isGreeting]

theorem labelByGreeting_eq_some_iff_of_isPunctual {wait : Nat} {f : Inflow} (h : f.IsPunctual wait)
    {label : String} :
    labelByGreeting wait f = some label ↔
      ∃ n line, n < greetingLines ∧ Greets (f.bytes.splitOn 0x0A) n line ∧ HasLabel line label := by
  rw [labelByGreeting_eq_some_iff]
  refine exists_congr fun n => exists_congr fun line => and_congr_right fun hn => and_congr_right fun hgreets => ?_
  exact and_iff_right (h n line hn hgreets)

/-- **`label_of_lines`** — the label of a server is that of the first greeting among the first lines of its bytes,
if that one and all lines before it arrive in time. While they do, it does not matter in which pieces, nor when. -/
theorem label_of_lines (wait : Nat) (f : Inflow) :
    (∀ label, labelByGreeting wait f = some label ↔
      ∃ n line, n < greetingLines ∧ Greets (f.bytes.splitOn 0x0A) n line ∧ f.InTime wait (n + 1) ∧
        HasLabel line label) ∧
    (f.IsPunctual wait →
      (∀ label, labelByGreeting wait f = some label ↔
        ∃ n line, n < greetingLines ∧ Greets (f.bytes.splitOn 0x0A) n line ∧ HasLabel line label) ∧
      (labelByGreeting wait f = none ↔ ∀ n line, n < greetingLines → ¬ Greets (f.bytes.splitOn 0x0A) n line) ∧
      ∀ (wait' : Nat) (g : Inflow), g.bytes = f.bytes → g.IsPunctual wait' →
        labelByGreeting wait' g = labelByGreeting wait f) := by
  refine ⟨fun label => labelByGreeting_eq_some_iff, fun h => ⟨fun label => ?_, ?_, fun wait' g hbytes hg => ?_⟩⟩
  · exact labelByGreeting_eq_some_iff_of_isPunctual h
  · rw [Option.eq_none_iff_forall_ne_some]
    constructor
    · intro hnone n line hn hgreets
      have hlabel := (labelOfGreeting_eq_some_iff hgreets.isGreeting).mp (labelOfGreeting_eq hgreets.isGreeting)
      exact hnone _ ((labelByGreeting_eq_some_iff_of_isPunctual h).mpr ⟨n, line, hn, hgreets, hlabel⟩)
    · intro hnone label hlabel
      obtain ⟨n, line, hn, hgreets, -⟩ := (labelByGreeting_eq_some_iff_of_isPunctual h).mp hlabel
      exact hnone n line hn hgreets
  · refine Option.ext fun label => ?_
    rw [labelByGreeting_eq_some_iff_of_isPunctual hg, labelByGreeting_eq_some_iff_of_isPunctual h, hbytes]

/-- A notice and a greeting that trickle in, cut inside of a character and inside of the name. -/
def trickle : Inflow := .start [
  ⟨100, [0xC3]⟩,
  ⟨300, [0xA9, 0x0D, 0x0A, 0x53, 0x53]⟩,
  ⟨50, Text.Utf8.encode "H-2.0-OpenSSH_9.6 Ubun".toList⟩,
  ⟨350, Text.Utf8.encode "tu\r\n".toList⟩] none

theorem trickle_labelled :
    trickle.IsPunctual 400 ∧ labelByGreeting 400 trickle = some "Linux (Ubuntu)" ∧
      labelByGreeting 0 (.start [⟨0, trickle.bytes⟩] none) = labelByGreeting 400 trickle := by
  have hgreets : Greets (trickle.bytes.splitOn 0x0A) 1 "SSH-2.0-OpenSSH_9.6 Ubuntu\r".toList := by
    refine ⟨[[0xC3, 0xA9, 0x0D]], Text.Utf8.encode "SSH-2.0-OpenSSH_9.6 Ubuntu\r".toList, [[]], by decide +kernel, rfl,
      Text.Utf8.decode?_encode _, by decide, ?_⟩
    rintro raw ⟨⟩
    · exact ⟨"é\r".toList, by decide +kernel, by decide⟩
    · contradiction
  have hpunctual : trickle.IsPunctual 400 := isPunctual_of_greets hgreets ⟨by decide +kernel, by decide +kernel⟩
  obtain ⟨hlabel, -, hsame⟩ := (label_of_lines 400 trickle).2 hpunctual
  refine ⟨hpunctual, (hlabel _).mpr ⟨1, _, by decide, hgreets, ?_⟩, hsame 0 _ (by decide +kernel) ?_⟩
  · exact (labelOfGreeting_eq_some_iff (by decide)).mp (by decide +kernel)
  · exact isPunctual_of_greets hgreets ⟨by decide +kernel, by decide +kernel⟩

end LanCensus.Detect
