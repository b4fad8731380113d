/-
# LanCensus.Proofs.Archive.Settings -- settings that were written are read

Every operation keeps the entries in strictly ascending order of their names (`IsOrdered`). Entries that
are put into place one after another in that order go to the end each, so the settings that are read are
the ones that were written.
-/

import LanCensus.Archive.Settings
import LanCensus.Proofs.Json.Record
import Mathlib.Data.String.Basic

namespace LanCensus.Settings

/-! ## Order -/

/-- **`IsOrdered s`** — every name comes once, and they ascend. -/
def IsOrdered (s : Settings) : Prop := s.entries.Pairwise fun a b => a.1 < b.1

theorem isOrdered_empty : empty.IsOrdered := List.Pairwise.nil

/-- An entry with the new name, or one that was there. -/
theorem name_of_mem_put {name text : String} {entries : List (String × String)} {e : String × String}
    (h : e ∈ put name text entries) : e.1 = name ∨ e ∈ entries := by
  induction entries with
  | nil => exact .inl (congrArg Prod.fst (List.mem_singleton.mp h))
  | cons first rest ih =>
      unfold put at h
      split_ifs at h with heq hlt
      · exact (List.mem_cons.mp h).imp (fun h => congrArg Prod.fst h) (List.mem_cons_of_mem _)
      · exact (List.mem_cons.mp h).imp_left fun h => congrArg Prod.fst h
      · rcases List.mem_cons.mp h with rfl | h
        · exact .inr List.mem_cons_self
        · exact (ih h).imp_right (List.mem_cons_of_mem _)

/-- An entry is put into its place. -/
theorem pairwise_put {entries : List (String × String)} (h : entries.Pairwise fun a b => a.1 < b.1)
    (name text : String) : (put name text entries).Pairwise fun a b => a.1 < b.1 := by
  induction entries with
  | nil => exact List.pairwise_singleton _ _
  | cons first rest ih =>
      obtain ⟨hfirst, hrest⟩ := List.pairwise_cons.mp h
      unfold put
      split_ifs with heq hlt
      · exact List.pairwise_cons.mpr ⟨heq ▸ hfirst, hrest⟩
      · refine List.pairwise_cons.mpr ⟨fun e he => ?_, h⟩
        rcases List.mem_cons.mp he with rfl | he
        · exact hlt
        · exact lt_trans hlt (hfirst e he)
      · refine List.pairwise_cons.mpr ⟨fun e he => ?_, ih hrest⟩
        rcases name_of_mem_put he with hname | he
        · rw [hname]
          exact lt_of_le_of_ne (not_lt.mp hlt) (Ne.symm heq)
        · exact hfirst e he

/-- **`IsOrdered.set`** — a text under a name keeps the order. -/
theorem IsOrdered.set {s : Settings} (h : s.IsOrdered) (name text : String) :
    (s.set name text).IsOrdered := pairwise_put h name text

theorem IsOrdered.ofList (entries : List (String × String)) : (Settings.ofList entries).IsOrdered := by
  have hfold : ∀ (s : Settings), s.IsOrdered →
      (entries.foldl (fun s e => s.set e.1 e.2) s).IsOrdered := by
    induction entries with
    | nil => exact fun s h => h
    | cons e entries ih => exact fun s h => ih _ (h.set e.1 e.2)
  exact hfold empty isOrdered_empty

/-! ## Reading what was written -/

/-- A name above all others goes to the end. -/
theorem put_last {entries : List (String × String)} {name text : String}
    (h : ∀ e ∈ entries, e.1 < name) : put name text entries = entries ++ [(name, text)] := by
  induction entries with
  | nil => rfl
  | cons first rest ih =>
      obtain ⟨hfirst, hrest⟩ := List.forall_mem_cons.mp h
      rw [put, if_neg hfirst.ne', if_neg hfirst.not_gt, ih hrest, List.cons_append]

/-- Entries in order are put together as they are. -/
theorem ofList_entries {s : Settings} (h : s.IsOrdered) : ofList s.entries = s := by
  have hfold : ∀ (entries before : List (String × String)),
      (before ++ entries).Pairwise (fun a b => a.1 < b.1) →
      entries.foldl (fun s e => Settings.set s e.1 e.2) ⟨before⟩ = ⟨before ++ entries⟩ := by
    intro entries
    induction entries with
    | nil =>
        intro before _
        rw [List.foldl_nil, List.append_nil]
    | cons e entries ih =>
        intro before hordered
        have hlast : ∀ d ∈ before, d.1 < e.1 := fun d hd =>
          (List.pairwise_append.mp hordered).2.2 d hd e List.mem_cons_self
        have hset : (⟨before⟩ : Settings).set e.1 e.2 = ⟨before ++ [e]⟩ :=
          congrArg Settings.mk (put_last hlast)
        show List.foldl _ (Settings.set ⟨before⟩ e.1 e.2) entries = _
        rw [hset, ih, List.append_assoc, List.singleton_append]
        rwa [List.append_assoc, List.singleton_append]
  exact hfold s.entries [] h

/-- **`ofText_pretty`** — settings in order are read from the text that holds them. -/
theorem ofText_pretty {s : Settings} (h : s.IsOrdered) :
    ofText (String.ofList s.toJson.pretty) = .ok s := by
  have hentries : (s.entries.map fun m => (m.1, id m.2)) = s.entries := List.map_id s.entries
  have hreads : Json.Reads (Json.readMap Json.readString)
      (Json.indented 0 (.object (s.entries.map fun m => (m.1, Json.string m.2))))
      (s.entries.map fun m => (m.1, id m.2)) := Json.reads_map fun m _ => Json.reads_string _ m.2
  rw [hentries] at hreads
  have hread : Json.readWhole (Json.readMap Json.readString) (String.ofList s.toJson.pretty) =
      .ok s.entries := Json.readWhole_of_reads hreads
  rw [ofText, hread, Except.map, ofList_entries h]

end LanCensus.Settings
