/-
# LanCensus.Service.Target -- what a request is aimed at

The target of a request is a path with or without a query, a whole address with a scheme and an
authority, an authority alone, or a star. The census cares for the path only, but a target that is
none of these is refused before anybody looks at it.
-/

import LanCensus.Text.Blank

namespace LanCensus.Service

/-! ## Characters -/

/-- Characters that may stand in a path. -/
def isPathChar (c : Char) : Bool :=
  let n := c.toNat
  n == 0x21 || n == 0x22 || (0x24 ≤ n && n ≤ 0x3B) || n == 0x3D || (0x40 ≤ n && n ≤ 0x5F)
    || (0x61 ≤ n && n ≤ 0x7A) || 0x7B ≤ n

/-- Characters that may stand in a query. -/
def isQueryChar (c : Char) : Bool :=
  let n := c.toNat
  n == 0x21 || (0x24 ≤ n && n ≤ 0x3B) || n == 0x3D || 0x3F ≤ n

/-- Characters that may stand in an authority. -/
def isAuthorityChar (c : Char) : Bool := c.isAlphanum || "!$&'()*+,-.:;=@[]_~".contains c

/-- Characters that may stand in a scheme. -/
def isSchemeChar (c : Char) : Bool := c.isAlphanum || "+-.".contains c

/-! ## The parts of a target -/

/-- The path in front of a query or a fragment, unless a character is out of place. -/
def pathOf? (s : List Char) : Option (List Char) :=
  let path := s.takeWhile fun c => c ≠ '?' && c ≠ '#'
  let query :=
    match s.dropWhile fun c => c ≠ '?' && c ≠ '#' with
    | '?' :: rest => rest.takeWhile (· ≠ '#')
    | _ => []
  if path.all isPathChar && query.all isQueryChar then some path else none

/-- **`AuthorityScan`** — what has been seen of an authority. -/
structure AuthorityScan where
  colons : Nat
  opened : Bool
  closed : Bool
  percent : Bool
  /-- The last character was the mark behind a user's name. -/
  afterUser : Bool

/-- One more character of an authority. -/
def AuthorityScan.step (a : AuthorityScan) (c : Char) : Option AuthorityScan :=
  let a' := { a with afterUser := false }
  if c = '%' then some { a' with percent := true }
  else if !isAuthorityChar c then none
  else if c = ':' then if 8 ≤ a.colons then none else some { a' with colons := a.colons + 1 }
  else if c = '[' then if a.percent || a.opened then none else some { a' with opened := true }
  else if c = ']' then
    if !a.opened || a.closed then none
    else some { a' with closed := true, colons := 0, percent := false }
  else if c = '@' then some { a with colons := 0, percent := false, afterUser := true }
  else some a'

/-- Whether a text is an authority. -/
def isAuthority (s : List Char) : Bool :=
  match s.foldlM AuthorityScan.step ⟨0, false, false, false, false⟩ with
  | some a => a.opened == a.closed && a.colons ≤ 1 && !a.afterUser && !a.percent
  | none => false

/-- The authority at the beginning of a text, and what follows it. -/
def splitAuthority (s : List Char) : List Char × List Char :=
  s.span fun c => c ≠ '/' && c ≠ '?' && c ≠ '#'

/-- What follows the scheme and its marks, if a text begins with one. -/
def afterScheme? (s : List Char) : Option (List Char) :=
  match s.dropWhile isSchemeChar with
  | ':' :: '/' :: '/' :: rest => some rest
  | _ => none

/-! ## Targets -/

/-- The greatest length of a target in bytes. -/
def targetLimit : Nat := 65534

/-- The greatest length of a scheme. -/
def schemeLimit : Nat := 64

/-- The path of a whole address; it is the top one if there is none. -/
def pathOfAddress? (s : List Char) : Option (List Char) :=
  match afterScheme? s with
  | some rest =>
    let (authority, rest) := splitAuthority rest
    if schemeLimit < (s.takeWhile isSchemeChar).length then none
    else if authority.isEmpty || !isAuthority authority then none
    else (pathOf? rest).map fun path => if path.isEmpty then ['/'] else path
  | none =>
    let (authority, rest) := splitAuthority s
    if rest.isEmpty && isAuthority authority then some [] else none

/-- **`targetPath? s`** — the path that a request is aimed at. -/
def targetPath? (s : String) : Option (List Char) :=
  if targetLimit < s.utf8ByteSize then none
  else
    match s.toList with
    | [] => none
    | ['*'] => some ['*']
    | '/' :: rest => pathOf? ('/' :: rest)
    | s => pathOfAddress? s

end LanCensus.Service
