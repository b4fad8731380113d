/-
# LanCensus.Proofs.Archive.Files -- a file that was written can be read

Where a path leads depends on the tree, but only by what stands in the way. `Path.place` is where it
leads if nothing does, and `Path.stops` are the places it passes. A tree that admits a path (`Admits`) has
no file at a stop and no directory at the end, so the path can be written to. What a write does to the
tree is then said place by place (`IsWritten`): the content stands at the end, directories at the
stops, and everything else is as it was. In particular a write through one path leaves alone what is read
through another, if neither ends where the other one passes (`Path.Apart`).
-/

import LanCensus.Archive.Files
import Mathlib.Data.List.Infix

namespace LanCensus.Archive

/-! ## Where a path leads -/

/-- One step down from a place, or up, if nothing stands in the way. -/
def down (place : List String) (name : String) : List String :=
  if name = ".." then place.dropLast else place ++ [name]

/-- The place at the end of the names. -/
def placeOf (parts : List String) : List String := parts.foldl down []

/-- **`IsName n`** — the text can name a file or a directory. -/
structure IsName (n : String) : Prop where
  ne_empty : n ≠ ""
  fits : n.utf8ByteSize ≤ Files.nameLimit
  clean : n.toList.contains '\x00' = false

instance (n : String) : Decidable (IsName n) :=
  decidable_of_iff (n ≠ "" ∧ n.utf8ByteSize ≤ Files.nameLimit ∧ n.toList.contains '\x00' = false)
    ⟨fun h => ⟨h.1, h.2.1, h.2.2⟩, fun h => ⟨h.ne_empty, h.fits, h.clean⟩⟩

namespace Path

/-- **`place p`** — where the path leads if nothing stands in the way. -/
def place (p : Path) : List String := placeOf p.parts

/-- **`stops p`** — the places of the directories that the path passes. -/
def stops (p : Path) : List (List String) := p.parts.dropLast.inits.map placeOf

/-- **`IsProper p`** — the path names a file, and does not pass the place where it ends. -/
structure IsProper (p : Path) : Prop where
  names : ∀ n ∈ p.parts, IsName n
  slash : p.slash = false
  ends : p.place ∉ p.stops

/-- **`Apart p q`** — the paths end at different places, and neither passes the end of the other. -/
structure Apart (p q : Path) : Prop where
  ne : p.place ≠ q.place
  left : p.place ∉ q.stops
  right : q.place ∉ p.stops

theorem Apart.symm {p q : Path} (h : p.Apart q) : q.Apart p := ⟨h.ne.symm, h.right, h.left⟩

theorem mem_stops {p : Path} {q : List String} :
    q ∈ p.stops ↔ ∃ parts, parts <+: p.parts.dropLast ∧ placeOf parts = q := by
  simp only [stops, List.mem_map, List.mem_inits]

/-- Every way starts at the top, so no proper one ends there. -/
theorem IsProper.place_ne_nil {p : Path} (h : p.IsProper) : p.place ≠ [] := fun hnil =>
  h.ends (mem_stops.mpr ⟨[], List.nil_prefix, hnil.symm⟩)

end Path

/-! ## Finding the way -/

namespace Files

variable {f g : Files}

theorem top_entry (f : Files) : f.entry? [] = some .directory := rfl

theorem isDirectory_iff {q : List String} : f.isDirectory q = true ↔ f.entry? q = some .directory :=
  decide_eq_true_iff

theorem put_entry (f : Files) {q : List String} (hq : q ≠ []) (e : Entry) (r : List String) :
    Files.entry? (f.put q e) r = if r = q then some e else f.entry? r := by
  cases r with
  | nil => rw [top_entry, top_entry, if_neg (Ne.symm hq)]
  | cons n r =>
      show List.lookup (n :: r) ((q, e) :: f.entries.filter fun x => x.1 ≠ q) = _
      by_cases h : n :: r = q
      · rw [if_pos h, h, List.lookup_cons_self]
      · have hbeq : (n :: r == q) = false := beq_eq_false_iff_ne.mpr h
        rw [if_neg h, List.lookup_cons, hbeq]
        show List.lookup (n :: r) (f.entries.filter _) = List.lookup (n :: r) f.entries
        induction f.entries with
        | nil => rfl
        | cons x xs ih =>
            by_cases hx : x.1 = q
            · have hne : (n :: r == x.1) = false := beq_eq_false_iff_ne.mpr (hx ▸ h)
              rw [List.filter_cons_of_neg (by simpa using hx), List.lookup_cons, hne]
              exact ih
            · rw [List.filter_cons_of_pos (by simpa using hx), List.lookup_cons, List.lookup_cons, ih]

/-- A step from a directory. -/
theorem step_of_directory {q : List String} {n : String} (hq : f.entry? q = some .directory)
    (hn : IsName n) : f.step q n = .ok (down q n) := by
  unfold step down
  rw [isDirectory_iff.mpr hq, Bool.not_true, if_neg Bool.false_ne_true,
    if_neg (Nat.not_lt.mpr hn.fits)]
  split <;> rfl

theorem walk_cons {q : List String} {n m : String} {rest : List String}
    (hq : f.entry? q = some .directory) (hn : IsName n) :
    f.walk q (n :: m :: rest) =
      if (f.entry? (down q n)).isNone then .error .notFound else f.walk (down q n) (m :: rest) := by
  rw [walk, step_of_directory hq hn]
  · rfl
  · exact List.cons_ne_nil m rest

/-- A way along directories leads to its end. -/
theorem walk_of_directories {parts : List String} {q : List String} (hn : ∀ n ∈ parts, IsName n)
    (hq : ∀ pre, pre <+: parts → pre ≠ parts → f.entry? (pre.foldl down q) = some .directory) :
    f.walk q parts = .ok (parts.foldl down q) := by
  induction parts generalizing q with
  | nil => rfl
  | cons n rest ih =>
      obtain ⟨hname, hrest⟩ := List.forall_mem_cons.mp hn
      have hstart : f.entry? q = some .directory := hq [] List.nil_prefix (List.cons_ne_nil n rest).symm
      cases rest with
      | nil => exact step_of_directory hstart hname
      | cons m rest =>
          have hbelow : f.entry? (down q n) = some .directory := hq [n] (by simp) (by simp)
          rw [walk_cons hstart hname, hbelow]
          exact ih hrest fun pre hpre hne => hq (n :: pre) (by simpa using hpre) (by simpa using hne)

/-- A way on which a directory is missing, and nothing else is, leads nowhere. -/
theorem walk_of_missing {parts : List String} {q : List String} (hn : ∀ n ∈ parts, IsName n)
    (hstart : f.entry? q = some .directory)
    (hfree : ∀ pre, pre <+: parts → f.entry? (pre.foldl down q) = none ∨
      f.entry? (pre.foldl down q) = some .directory)
    (hmissing : ∃ pre, pre <+: parts ∧ pre ≠ parts ∧ f.entry? (pre.foldl down q) = none) :
    f.walk q parts = .error .notFound := by
  induction parts generalizing q with
  | nil =>
      obtain ⟨pre, hpre, hne, -⟩ := hmissing
      exact absurd (List.prefix_nil.mp hpre) hne
  | cons n rest ih =>
      obtain ⟨hname, hrest⟩ := List.forall_mem_cons.mp hn
      -- What is missing is not the start, so it lies below.
      obtain ⟨pre, hpre, hne, hnone⟩ := hmissing
      cases pre with
      | nil => cases hstart.symm.trans hnone
      | cons k pre =>
          obtain ⟨rfl, hbelow⟩ := List.cons_prefix_cons.mp hpre
          cases rest with
          | nil => exact absurd (by rw [List.prefix_nil.mp hbelow]) hne
          | cons m rest =>
              rw [walk_cons hstart hname]
              rcases hfree [k] (by simp) with hfirst | hfirst
              · rw [show down q k = [k].foldl down q from rfl, hfirst]
                rfl
              · rw [show down q k = [k].foldl down q from rfl, hfirst]
                refine ih hrest hfirst (fun pre hpre => hfree (k :: pre) (by simpa using hpre)) ?_
                exact ⟨pre, hbelow, by simpa using hne, hnone⟩

theorem resolve_eq_walk {parts : List String} (hn : ∀ n ∈ parts, IsName n) :
    f.resolve parts = f.walk [] parts := by
  unfold resolve
  rw [if_neg, if_neg]
  · rw [List.contains_iff_mem]
    exact fun hmem => (hn "" hmem).ne_empty rfl
  · rw [List.any_eq_true]
    rintro ⟨n, hmem, hzero⟩
    rw [(hn n hmem).clean] at hzero
    cases hzero

/-- **`resolve_of_directories`** — a path along directories leads to its place. -/
theorem resolve_of_directories {parts : List String} (hn : ∀ n ∈ parts, IsName n)
    (hq : ∀ pre, pre <+: parts → pre ≠ parts → f.entry? (placeOf pre) = some .directory) :
    f.resolve parts = .ok (placeOf parts) := by
  rw [resolve_eq_walk hn]
  exact walk_of_directories hn hq

theorem resolve_of_missing {parts : List String} (hn : ∀ n ∈ parts, IsName n)
    (hfree : ∀ pre, pre <+: parts → f.entry? (placeOf pre) = none ∨
      f.entry? (placeOf pre) = some .directory)
    (hmissing : ∃ pre, pre <+: parts ∧ pre ≠ parts ∧ f.entry? (placeOf pre) = none) :
    f.resolve parts = .error .notFound := by
  rw [resolve_eq_walk hn]
  exact walk_of_missing hn f.top_entry hfree hmissing

/-! ## Making directories -/

/-- **`HasDirectories f g parts`** — `g` is `f` with a directory at the end of each beginning of
`parts`. -/
def HasDirectories (f g : Files) (parts : List String) : Prop :=
  ∀ q, ((∃ pre, pre <+: parts ∧ placeOf pre = q) → g.entry? q = some .directory) ∧
    ((¬ ∃ pre, pre <+: parts ∧ placeOf pre = q) → g.entry? q = f.entry? q)

/-- One more directory, where there may be one already. -/
theorem HasDirectories.makeDirectory {parts : List String} {n : String}
    (hg : HasDirectories f g parts) (hn : ∀ m ∈ parts ++ [n], IsName m)
    (hfree : f.entry? (placeOf (parts ++ [n])) = none ∨
      f.entry? (placeOf (parts ++ [n])) = some .directory) :
    ∃ k, HasDirectories f k (parts ++ [n]) ∧
      (g.makeDirectory (parts ++ [n]) = .ok k ∨
        g.makeDirectory (parts ++ [n]) = .error .alreadyExists ∧ g = k ∧
          g.leadsToDirectory (parts ++ [n]) = true) := by
  have hresolve : g.resolve (parts ++ [n]) = .ok (placeOf (parts ++ [n])) := by
    refine resolve_of_directories hn fun pre hpre hne => (hg _).1 ⟨pre, ?_, rfl⟩
    exact (List.prefix_concat_iff.mp hpre).resolve_left hne
  have hsplit : ∀ q, (∃ pre, pre <+: parts ++ [n] ∧ placeOf pre = q) ↔
      placeOf (parts ++ [n]) = q ∨ ∃ pre, pre <+: parts ∧ placeOf pre = q := by
    intro q
    constructor
    · rintro ⟨pre, hpre, rfl⟩
      rcases List.prefix_concat_iff.mp hpre with rfl | hpre
      · exact .inl rfl
      · exact .inr ⟨pre, hpre, rfl⟩
    · rintro (rfl | ⟨pre, hpre, rfl⟩)
      · exact ⟨_, List.prefix_refl _, rfl⟩
      · exact ⟨pre, hpre.trans (List.prefix_append _ _), rfl⟩
  cases he : g.entry? (placeOf (parts ++ [n])) with
  | none =>
      have hne : placeOf (parts ++ [n]) ≠ [] := by
        intro hnil
        rw [hnil, top_entry] at he
        cases he
      refine ⟨g.put (placeOf (parts ++ [n])) .directory, fun q => ?_, .inl ?_⟩
      · rw [hsplit, put_entry _ hne]
        by_cases hq : q = placeOf (parts ++ [n])
        · rw [if_pos hq]
          exact ⟨fun _ => rfl, fun hno => absurd (.inl hq.symm) hno⟩
        · rw [if_neg hq, or_iff_right (Ne.symm hq)]
          exact hg q
      · simp [Files.makeDirectory, hresolve, he, bind, Except.bind, pure, Except.pure]
  | some e =>
      have hdir : g.entry? (placeOf (parts ++ [n])) = some .directory := by
        by_cases hin : ∃ pre, pre <+: parts ∧ placeOf pre = placeOf (parts ++ [n])
        · exact (hg _).1 hin
        · rw [(hg _).2 hin] at he ⊢
          rcases hfree with hnone | hdir
          · cases hnone.symm.trans he
          · exact hdir
      refine ⟨g, fun q => ?_, .inr ⟨?_, rfl, ?_⟩⟩
      · rw [hsplit]
        refine ⟨?_, fun hno => (hg q).2 fun h => hno (.inr h)⟩
        rintro (rfl | h)
        · exact hdir
        · exact (hg q).1 h
      · simp [Files.makeDirectory, hresolve, hdir, bind, Except.bind, throw, throwThe,
          MonadExceptOf.throw]
      · simp [leadsToDirectory, hresolve, isDirectory_iff, hdir]

/-- **`makeDirectories_of_free`** — if no file stands in the way, all directories are made that are
missing, and nothing else changes. -/
theorem makeDirectories_of_free {parts : List String} (hn : ∀ n ∈ parts, IsName n)
    (hfree : ∀ pre, pre <+: parts → f.entry? (placeOf pre) = none ∨
      f.entry? (placeOf pre) = some .directory) :
    ∃ g, f.makeDirectories parts = (g, .ok ()) ∧ HasDirectories f g parts := by
  unfold makeDirectories
  induction parts using List.reverseRecOn with
  | nil =>
      refine ⟨f, rfl, fun q => ⟨?_, fun _ => rfl⟩⟩
      rintro ⟨pre, hpre, rfl⟩
      rw [List.prefix_nil.mp hpre]
      exact f.top_entry
  | append_singleton above n ih =>
      have habove : ∀ m ∈ above, IsName m := fun m hm => hn m (List.mem_append_left _ hm)
      have hfree' : ∀ pre, pre <+: above → f.entry? (placeOf pre) = none ∨
          f.entry? (placeOf pre) = some .directory :=
        fun pre hpre => hfree pre (hpre.trans (List.prefix_append _ _))
      have hlast := hfree _ (List.prefix_refl (above ++ [n]))
      rw [List.reverse_append, List.reverse_singleton, List.singleton_append]
      have hparts : (n :: above.reverse).reverse = above ++ [n] := by simp
      by_cases hmissing : ∃ pre, pre <+: above ∧ f.entry? (placeOf pre) = none
      -- A directory above is missing, and is made first.
      · obtain ⟨g, hup, hg⟩ := ih habove hfree'
        obtain ⟨k, hk, hmake⟩ := hg.makeDirectory hn hlast
        have hnot : f.makeDirectory (above ++ [n]) = .error .notFound := by
          obtain ⟨pre, hpre, hnone⟩ := hmissing
          have hresolve := resolve_of_missing hn hfree
            ⟨pre, hpre.trans (List.prefix_append _ _), ?_, hnone⟩
          · simp [makeDirectory, hresolve, bind, Except.bind]
          · rintro rfl
            have hlength := hpre.length_le
            rw [List.length_append, List.length_singleton] at hlength
            omega
        refine ⟨k, ?_, hk⟩
        simp only [makeDirectoriesUp, hparts, hnot, if_true, hup]
        rcases hmake with hmake | ⟨hmake, rfl, hleads⟩
        · rw [hmake]
        · rw [hmake]
          simp only [hleads, if_true]
      · have hhas : HasDirectories f f above := by
          refine fun q => ⟨?_, fun _ => rfl⟩
          rintro ⟨pre, hpre, rfl⟩
          exact (hfree' pre hpre).resolve_left fun hnone => hmissing ⟨pre, hpre, hnone⟩
        obtain ⟨k, hk, hmake⟩ := hhas.makeDirectory hn hlast
        refine ⟨k, ?_, hk⟩
        rcases hmake with hmake | ⟨hmake, rfl, hleads⟩
        · simp only [makeDirectoriesUp, hparts, hmake]
        · simp [makeDirectoriesUp, hparts, hmake, hleads]

/-! ## Reading and writing -/

/-- **`Admits f p`** — nothing in the tree keeps the path from being read and written: no file is in its
way, no directory at its end, and if a file is there the way to it is. -/
structure Admits (f : Files) (p : Path) : Prop where
  proper : p.IsProper
  free : ∀ q ∈ p.stops, f.entry? q = none ∨ f.entry? q = some .directory
  noDirectory : f.entry? p.place ≠ some .directory
  reached : f.entry? p.place = none ∨ ∀ q ∈ p.stops, f.entry? q = some .directory

/-- **`IsWritten f p content g`** — `g` is `f` with the content at the end of the path and directories on
the way to it. -/
def IsWritten (f : Files) (p : Path) (content : List UInt8) (g : Files) : Prop :=
  ∀ q, g.entry? q =
    if q = p.place then some (.file content)
    else if q ∈ p.stops then some .directory
    else f.entry? q

variable {p q : Path} {content : List UInt8}

/-- A tree without entries admits every path. -/
theorem admits_empty (hp : p.IsProper) : empty.Admits p := by
  have hnone : ∀ q : List String, q ≠ [] → empty.entry? q = none := by
    intro q hq
    cases q with
    | nil => exact absurd rfl hq
    | cons n q => rfl
  refine ⟨hp, fun q _ => ?_, ?_, .inl (hnone _ hp.place_ne_nil)⟩
  · by_cases hq : q = []
    · exact .inr (hq ▸ top_entry empty)
    · exact .inl (hnone q hq)
  · rw [hnone _ hp.place_ne_nil]
    exact fun h => nomatch h

/-- What stands before the end of a path is one of its stops. -/
theorem mem_stops_of_beginning {pre : List String} (hpre : pre <+: p.parts) (hne : pre ≠ p.parts) :
    placeOf pre ∈ p.stops := by
  refine Path.mem_stops.mpr ⟨pre, ?_, rfl⟩
  rcases List.eq_nil_or_concat p.parts with hnil | ⟨above, n, hparts⟩
  · rw [hnil] at hpre hne
    exact absurd (List.prefix_nil.mp hpre) hne
  · rw [hparts, List.concat_eq_append] at hpre hne ⊢
    rw [List.dropLast_concat]
    exact (List.prefix_concat_iff.mp hpre).resolve_left hne

theorem Admits.resolve_eq (h : f.Admits p) (hstops : ∀ q ∈ p.stops, f.entry? q = some .directory) :
    f.resolve p.parts = .ok p.place :=
  resolve_of_directories h.proper.names fun _ hpre hne => hstops _ (mem_stops_of_beginning hpre hne)

/-- **`Admits.read_eq`** — what is read is what is at the end of the path. -/
theorem Admits.read_eq (h : f.Admits p) :
    f.read p =
      match f.entry? p.place with
      | some (.file content) => .ok content
      | _ => .error .notFound := by
  by_cases hstops : ∀ q ∈ p.stops, f.entry? q = some .directory
  · rw [read, h.resolve_eq hstops]
    cases he : f.entry? p.place with
    | none => simp [he, bind, Except.bind, throw, throwThe, MonadExceptOf.throw]
    | some e =>
        cases e with
        | directory => exact absurd he h.noDirectory
        | file content =>
            simp [he, h.proper.slash, bind, Except.bind, pure, Except.pure]
  · have hnone := h.reached.resolve_right hstops
    push Not at hstops
    obtain ⟨q, hq, hmissing⟩ := hstops
    obtain ⟨pre, hpre, rfl⟩ := Path.mem_stops.mp hq
    have hresolve : f.resolve p.parts = .error .notFound := by
      refine resolve_of_missing h.proper.names (fun pre hpre => ?_) ⟨pre, ?_, ?_, ?_⟩
      · by_cases hne : pre = p.parts
        · exact .inl (hne ▸ hnone)
        · exact h.free _ (mem_stops_of_beginning hpre hne)
      · exact hpre.trans (List.dropLast_prefix _)
      · rintro rfl
        exact h.proper.ends hq
      · exact (h.free _ hq).resolve_right hmissing
    rw [read, hresolve, hnone]
    rfl

/-- **`Admits.write_eq`** — a path that is admitted can be written to. -/
theorem Admits.write_eq (h : f.Admits p) (content : List UInt8) :
    ∃ g, f.write p content = (g, .ok ()) ∧ f.IsWritten p content g := by
  have hnames : ∀ n ∈ p.parts.dropLast, IsName n := fun n hn =>
    h.proper.names n (List.mem_of_mem_dropLast hn)
  obtain ⟨k, hmake, hk⟩ := makeDirectories_of_free hnames fun pre hpre =>
    h.free _ (Path.mem_stops.mpr ⟨pre, hpre, rfl⟩)
  have hstops : ∀ q ∈ p.stops, k.entry? q = some .directory := fun q hq =>
    (hk q).1 (Path.mem_stops.mp hq)
  have hrest : ∀ q ∉ p.stops, k.entry? q = f.entry? q := fun q hq =>
    (hk q).2 fun hstop => hq (Path.mem_stops.mpr hstop)
  have hresolve : k.resolve p.parts = .ok p.place :=
    resolve_of_directories h.proper.names fun _ hpre hne => hstops _ (mem_stops_of_beginning hpre hne)
  have hplace : k.isDirectory p.place = false := by
    rw [← Bool.not_eq_true, isDirectory_iff, hrest _ h.proper.ends]
    exact h.noDirectory
  refine ⟨k.put p.place (.file content), ?_, fun q => ?_⟩
  · simp [write, hmake, overwrite, hresolve, h.proper.slash, hplace, bind, Except.bind, pure,
      Except.pure]
  · rw [put_entry _ h.proper.place_ne_nil]
    by_cases hq : q ∈ p.stops
    · rw [if_pos hq, hstops q hq]
    · rw [if_neg hq, hrest q hq]

namespace IsWritten

/-- The path stays open for the next write. -/
theorem admits (hw : f.IsWritten p content g) (hp : f.Admits p) : g.Admits p := by
  have hstops : ∀ q ∈ p.stops, g.entry? q = some .directory := by
    intro q hq
    rw [hw q, if_neg, if_pos hq]
    rintro rfl
    exact hp.proper.ends hq
  refine ⟨hp.proper, fun q hq => .inr (hstops q hq), ?_, .inr hstops⟩
  rw [hw, if_pos rfl]
  exact fun h => nomatch h

/-- What was written is read. -/
theorem read_eq (hw : f.IsWritten p content g) (hp : f.Admits p) : g.read p = .ok content := by
  rw [(hw.admits hp).read_eq, hw, if_pos rfl]

/-- A path that stands apart stays open. -/
theorem admits_apart (hw : f.IsWritten p content g) (hq : f.Admits q) (hpq : p.Apart q) :
    g.Admits q := by
  have hplace : g.entry? q.place = f.entry? q.place := by
    rw [hw, if_neg hpq.ne.symm, if_neg hpq.right]
  have hstop : ∀ r ∈ q.stops, g.entry? r = some .directory ∨ g.entry? r = f.entry? r := by
    intro r hr
    have hne : r ≠ p.place := by
      rintro rfl
      exact hpq.left hr
    rw [hw, if_neg hne]
    split
    · exact .inl rfl
    · exact .inr rfl
  refine ⟨hq.proper, fun r hr => ?_, hplace ▸ hq.noDirectory, ?_⟩
  · rcases hstop r hr with h | h
    · exact .inr h
    · rw [h]
      exact hq.free r hr
  · refine hq.reached.imp (fun h => hplace.trans h) fun h r hr => ?_
    rcases hstop r hr with h' | h'
    · exact h'
    · rw [h', h r hr]

/-- **`read_apart`** — a write leaves alone what is read through a path that stands apart. -/
theorem read_apart (hw : f.IsWritten p content g) (hq : f.Admits q) (hpq : p.Apart q) :
    g.read q = f.read q := by
  rw [(hw.admits_apart hq hpq).read_eq, hq.read_eq, hw, if_neg hpq.ne.symm, if_neg hpq.right]

end IsWritten

end Files

end LanCensus.Archive
