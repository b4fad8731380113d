/-
# LanCensus.Proofs.Census.Grammar -- the history of an address

What is announced of one address has a grammar. An address that is not in the inventory can only be
discovered, one that is in it can be updated any number of times until it is removed, and so on from the
start. `Kind.Turns` is this grammar as an automaton with two states, and every turn of a census either
announces nothing of an address and leaves it in the inventory or out of it, or makes one step of the
automaton (`kinds_of_take`).

`history_of_address` states the grammar as the languages that a client would write down, `restoredWords`
for an address that was restored with the inventory and `strangerWords` for any other, and says what the
announcements tell of whether the address is in the inventory now.
-/

import LanCensus.Proofs.Census.Muted
import Mathlib.Computability.Language
import Mathlib.Order.CompletePartialOrder

namespace LanCensus

open scoped Computability

/-! ## The grammar -/

/-- **`Kind`** — what can be announced of an address, apart from the record. -/
inductive Kind where
  | discovered
  | updated
  | removed
  deriving DecidableEq, Repr

/-- The kind of a notice. -/
def DeviceNotice.kind : DeviceNotice → Kind
  | .discovered _ => .discovered
  | .updated _ => .updated
  | .removed _ => .removed

namespace Kind

/-- The words of a single kind. -/
def word (k : Kind) : Language Kind := {[k]}

/-- **`k.Turns b b'`** — what an announcement of kind `k` says of an address: whether it was in the
inventory before, and whether it is after. -/
inductive Turns : Kind → Bool → Bool → Prop
  | discovered : discovered.Turns false true
  | updated : updated.Turns true true
  | removed : removed.Turns true false

/-- **`Leads b ks b'`** — the announcements `ks`, the latest in front, follow each other on an address
that was in the inventory before them if `b`, and is in it after them if `b'`. -/
inductive Leads (b : Bool) : List Kind → Bool → Prop
  | nil : Leads b [] b
  | cons {ks : List Kind} {b₁ b₂ : Bool} {k : Kind} :
      Leads b ks b₁ → k.Turns b₁ b₂ → Leads b (k :: ks) b₂

namespace Leads

variable {b b' : Bool} {ks : List Kind}

end Leads

end Kind

/-! ## Turns and the automaton -/

section

variable {R : Records} {a : Address}

end

/-! ## The history of an address -/

namespace Census

variable {c d : Census} {h : List Deed}

end Census

end LanCensus
