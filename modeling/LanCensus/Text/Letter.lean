/-
# LanCensus.Text.Letter -- upper and lower case

Case properties and full case mapping of texts. Mapping is context-sensitive in one place: a
capital sigma at the end of a word becomes the final small sigma. Mapping to upper case may make
a text longer.
-/

import LanCensus.Text.CaseTables

namespace LanCensus.Text

/-! ## Properties of characters -/

/-- The Unicode property Uppercase. -/
def isUpper (c : Char) : Bool := inRuns uppercaseRuns c.toNat

/-- The Unicode property Lowercase. -/
def isLower (c : Char) : Bool := inRuns lowercaseRuns c.toNat

/-- A character that takes part in case distinctions. -/
def isCased (c : Char) : Bool := inRuns casedRuns c.toNat

/-- A character that is passed over when the case of a neighbour is looked at. -/
def isCaseIgnorable (c : Char) : Bool := inRuns ignorableRuns c.toNat

/-! ## Mapping -/

/-- The lower-case form of one character, without regard to its neighbours. -/
def lowerChar (c : Char) : List Char :=
  if c.toNat < 0x80 then [c.toLower]
  else if c.toNat = 0x130 then ['i', Char.ofNat 0x307]
  else
    match shifted? lowerShifts c.toNat with
    | some n => [Char.ofNat n]
    | none => [c]

/-- The upper-case form of one character. -/
def upperChar (c : Char) : List Char :=
  if c.toNat < 0x80 then [c.toUpper]
  else
    match upperExpansions.find? (·.1 == c.toNat) with
    | some (_, long) => long.map Char.ofNat
    | none =>
      match shifted? upperShifts c.toNat with
      | some n => [Char.ofNat n]
      | none => [c]

/-- Whether the nearest character that is not passed over is a cased one. -/
def nextIsCased (s : List Char) : Bool :=
  match s.dropWhile isCaseIgnorable with
  | [] => false
  | c :: _ => isCased c

/-- Lower case of a text whose already mapped part is `before`, last character first. -/
def lowerFrom (before : List Char) : List Char → List Char
  | [] => []
  | c :: rest =>
    let mapped :=
      if c.toNat = 0x3A3 then
        if nextIsCased before && !nextIsCased rest then [Char.ofNat 0x3C2] else [Char.ofNat 0x3C3]
      else lowerChar c
    mapped ++ lowerFrom (c :: before) rest

/-- **`lower s`** — the text in lower case. -/
def lower (s : List Char) : List Char := lowerFrom [] s

/-- **`upper s`** — the text in upper case. -/
def upper (s : List Char) : List Char := s.flatMap upperChar

end LanCensus.Text
