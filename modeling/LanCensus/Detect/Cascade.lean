/-
# LanCensus.Detect.Cascade -- detectors in the order of their priority

A detector may recognise what kind of device lives at an address. Detectors are asked one after
another, those of higher priority first, until one of them gives a label. A blank label is no
label, and blanks around a label do not belong to it.
-/

import LanCensus.Net.Address
import LanCensus.Text.Quoted

namespace LanCensus.Detect

/-- The label in an answer, if there is one. -/
def label? (answer : Option String) : Option String :=
  (answer.map Text.trimmed).filter (· ≠ "")

/-- **`byPriority priority ds`** — the highest priority first; equal ones keep their order. -/
def byPriority {δ : Type} (priority : δ → Int) (ds : List δ) : List δ :=
  ds.mergeSort fun a b => priority b ≤ priority a

/-- **`Detector`** — a detector whose answers depend on the address alone. -/
structure Detector where
  name : String
  priority : Int
  answer : Address → Option String

/-- Asks detectors in turn. The names of those that were asked come with the label. -/
def askInTurn (a : Address) : List Detector → Option String × List String
  | [] => (none, [])
  | d :: rest =>
    match label? (d.answer a) with
    | some label => (some label, [d.name])
    | none =>
      let (label, asked) := askInTurn a rest
      (label, d.name :: asked)

/-- **`Cascade`** — detectors in the order in which they are asked. -/
structure Cascade where
  detectors : List Detector

namespace Cascade

/-- The cascade of detectors in the order in which they were registered. -/
def ofList (ds : List Detector) : Cascade := ⟨byPriority Detector.priority ds⟩

/-- The names in the order in which the detectors are asked. -/
def names (c : Cascade) : List String := c.detectors.map (·.name)

/-- **`label c a`** — the label of the first detector that has one. -/
def label (c : Cascade) (a : Address) : Option String := (askInTurn a c.detectors).1

/-- The names of the detectors that are asked about the address. -/
def asked (c : Cascade) (a : Address) : List String := (askInTurn a c.detectors).2

end Cascade

/-- A list of names in quotes. -/
def quotedNames (names : List String) : String :=
  "[" ++ ", ".intercalate (names.map Text.quoted) ++ "]"

/-- The cascade as it is shown to a developer. -/
def showCascade (names : List String) : String :=
  "DetectionChain \x7b detectors: " ++ quotedNames names ++ " \x7d"

end LanCensus.Detect
