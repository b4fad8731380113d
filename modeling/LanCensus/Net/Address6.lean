/-
# LanCensus.Net.Address6 -- IPv6 addresses as texts

Devices have IPv4 addresses only, but an IPv6 literal has to be recognised: a reverse lookup that
answers with one has found no name, and a location may name its host by one.

A literal is eight groups of one to four hexadecimal digits between colons. One run of groups,
at least one long, may be left out and is marked by a double colon. The last two groups may be
written as a dotted quad.
-/

import LanCensus.Net.Address

namespace LanCensus

/-- **`Address6`** — an IPv6 address, its eight groups first to last. -/
structure Address6 where
  groups : List Nat
  deriving DecidableEq, Repr

namespace Address6

/-- One group: one to four hexadecimal digits. -/
def group? (s : List Char) : Option Nat :=
  if s.length > 4 then none else Text.digits? 16 s

/-- The groups between single colons; a dotted quad at the end counts as two. -/
def groups? : List (List Char) → Option (List Nat)
  | [] => some []
  | [final] =>
    match Address.parse? final with
    | some a =>
      some [a.first.toNat * 256 + a.second.toNat, a.third.toNat * 256 + a.last.toNat]
    | none => (group? final).map ([·])
  | piece :: rest => do
    let g ← group? piece
    return g :: (← groups? rest)

/-- The groups of one side of a double colon; the side may be empty. -/
def side? (s : List Char) : Option (List Nat) :=
  if s.isEmpty then some [] else groups? (Text.splitAt ':' s)

/-- Splits a text at its first double colon. -/
def splitDouble : List Char → Option (List Char × List Char)
  | ':' :: ':' :: rest => some ([], rest)
  | c :: rest => (splitDouble rest).map fun (before, after) => (c :: before, after)
  | [] => none

/-- **`parse? s`** — the address that a literal names. A dotted quad cannot stand before the
double colon. -/
def parse? (s : List Char) : Option Address6 :=
  match splitDouble s with
  | none => ((groups? (Text.splitAt ':' s)).filter (·.length == 8)).map (⟨·⟩)
  | some (before, after) => do
    let front ← if before.contains '.' then none else side? before
    let back ← side? after
    if front.length + back.length ≤ 7 then
      some ⟨front ++ List.replicate (8 - front.length - back.length) 0 ++ back⟩
    else none

end Address6

/-- Whether the text is an IPv4 or IPv6 literal. -/
def isAddressLiteral (s : List Char) : Bool :=
  (Address.parse? s).isSome || (Address6.parse? s).isSome

end LanCensus
