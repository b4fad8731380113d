/-
# LanCensus.Proofs.Archive.Store -- a store gives back what it was given

A store in files works (`FileStore.IsWorking`) if nothing is in the way of its two paths, and of each of
them from the other. Then it saves whatever it is given, and goes on working. What is read next is what was
written last, a device as its record keeps it, and writing the one file leaves the other alone.
-/

import LanCensus.Archive.Store
import LanCensus.Proofs.Archive.Files
import LanCensus.Proofs.Archive.Settings
import LanCensus.Proofs.Device.Record
import LanCensus.Proofs.Text.Utf8

namespace LanCensus.Archive

/-! ## JSON files -/

section Files

variable {f g : Files} {p q : Path} {v : Json}

/-- The bytes of a value in a file. -/
def bytesOf (v : Json) : List UInt8 := Text.Utf8.ofString (String.ofList v.pretty)

theorem saveFile_eq (h : f.Admits p) (v : Json) :
    ∃ g, saveFile f p v = (g, .ok ()) ∧ f.IsWritten p (bytesOf v) g := by
  obtain ⟨g, hwrite, hg⟩ := h.write_eq (bytesOf v)
  refine ⟨g, ?_, hg⟩
  simp only [saveFile, Files.writeText, show f.write p (Text.Utf8.ofString _) = _ from hwrite]
  rfl

/-- What was saved is loaded. -/
theorem loadFile_of_isWritten {α : Type} {read : String → Except Json.Fault α} {default : α}
    (hg : f.IsWritten p (bytesOf v) g) (h : f.Admits p) :
    loadFile g p read default = (read (String.ofList v.pretty)).mapError .json := by
  have htext : g.readText p = .ok (String.ofList v.pretty) := by
    simp only [Files.readText, hg.read_eq h, bytesOf, Text.Utf8.string?_ofString, bind, Except.bind]
    rfl
  rw [loadFile, htext]

/-- What is loaded through a path that stands apart stays as it is. -/
theorem loadFile_apart {α : Type} {read : String → Except Json.Fault α} {default : α}
    (hg : f.IsWritten p (bytesOf v) g) (hq : f.Admits q) (hpq : p.Apart q) :
    loadFile g q read default = loadFile f q read default := by
  rw [loadFile, loadFile, Files.readText, Files.readText, hg.read_apart hq hpq]

/-- What is loaded was read from a text, if it is not what stands for a missing file. -/
theorem of_loadFile {α : Type} {read : String → Except Json.Fault α} {default x : α} {P : α → Prop}
    (h : loadFile f p read default = .ok x) (hdefault : P default)
    (hread : ∀ text x, read text = .ok x → P x) : P x := by
  unfold loadFile at h
  split at h
  · cases h
    exact hdefault
  · cases h
  · next text _ =>
    cases hx : read text with
    | error e =>
        rw [hx] at h
        cases h
    | ok y =>
        rw [hx] at h
        cases h
        exact hread text _ hx

end Files

/-! ## Stores in files -/

/-- **`IsWorking s`** — nothing keeps the store from reading and writing its files. -/
structure FileStore.IsWorking (s : FileStore) : Prop where
  devices : s.files.Admits s.devicesPath
  settings : s.files.Admits s.settingsPath
  apart : s.devicesPath.Apart s.settingsPath

namespace Store

/-- **`IsWorking s`** — a store in files that works. -/
def IsWorking (s : Store) : Prop := ∃ t : FileStore, s = .inFiles t ∧ t.IsWorking

variable {s : Store}

/-- Devices that were loaded can be written. -/
theorem isWritable_of_readDevices (h : s.IsWorking) {ds : List Device} (hread : s.readDevices = .ok ds) :
    ∀ d ∈ ds, d.lastSeen.IsWritable := by
  obtain ⟨t, rfl, -⟩ := h
  exact of_loadFile hread (fun _ hd => nomatch hd) fun _ _ => Device.isWritable_of_listOfText

/-- Settings that were loaded are in order. -/
theorem isOrdered_of_readSettings (h : s.IsWorking) {m : Settings} (hread : s.readSettings = .ok m) :
    m.IsOrdered := by
  obtain ⟨t, rfl, -⟩ := h
  refine of_loadFile hread Settings.isOrdered_empty fun text m hm => ?_
  unfold Settings.ofText at hm
  cases hx : Json.readWhole (Json.readMap Json.readString) text with
  | error e =>
      rw [hx] at hm
      cases hm
  | ok ms =>
      rw [hx] at hm
      cases hm
      exact .ofList ms

/-- **`writeDevices_of_isWorking`** — a working store saves devices: they are read as their records keep
them, and the settings are left alone. -/
theorem writeDevices_of_isWorking (h : s.IsWorking) (ds : List Device) :
    ∃ t, s.writeDevices ds = (t, .ok ()) ∧ t.IsWorking ∧
      ((∀ d ∈ ds, d.lastSeen.IsWritable) → t.readDevices = .ok (ds.map Device.stored)) ∧
      t.readSettings = s.readSettings := by
  obtain ⟨u, rfl, hu⟩ := h
  obtain ⟨g, hsave, hg⟩ := saveFile_eq hu.devices (Device.listToJson ds)
  refine ⟨.inFiles { u with files := g }, ?_, ⟨_, rfl, ?_⟩, fun hds => ?_, ?_⟩
  · simp only [writeDevices, hsave]
  · exact ⟨hg.admits hu.devices, hg.admits_apart hu.settings hu.apart, hu.apart⟩
  · exact (loadFile_of_isWritten hg hu.devices).trans (by rw [Device.listOfText_pretty hds]; rfl)
  · exact loadFile_apart hg hu.settings hu.apart

/-- **`writeSettings_of_isWorking`** — a working store saves settings: they are read as they are, and the
devices are left alone. -/
theorem writeSettings_of_isWorking (h : s.IsWorking) (m : Settings) :
    ∃ t, s.writeSettings m = (t, .ok ()) ∧ t.IsWorking ∧
      (m.IsOrdered → t.readSettings = .ok m) ∧ t.readDevices = s.readDevices := by
  obtain ⟨u, rfl, hu⟩ := h
  obtain ⟨g, hsave, hg⟩ := saveFile_eq hu.settings m.toJson
  refine ⟨.inFiles { u with files := g }, ?_, ⟨_, rfl, ?_⟩, fun hm => ?_, ?_⟩
  · simp only [writeSettings, hsave]
  · exact ⟨hg.admits_apart hu.devices hu.apart.symm, hg.admits hu.settings, hu.apart⟩
  · exact (loadFile_of_isWritten hg hu.settings).trans (by rw [Settings.ofText_pretty hm]; rfl)
  · exact loadFile_apart hg hu.devices hu.apart.symm

end Store

end LanCensus.Archive
