/-
# LanCensus.Toml.Value -- what configuration files hold

A configuration is a table of values by name. Numbers with a fraction and moments of time are told
from other values but not kept, since no setting is one.
-/

namespace LanCensus.Toml

/-- **`Value`** — a value of a configuration. -/
inductive Value where
  | text (s : String)
  | whole (n : Int)
  /-- A number with a fraction or an exponent. -/
  | fraction
  /-- A date, a time or both. -/
  | moment
  | flag (b : Bool)
  | list (items : List Value)
  | table (members : List (String × Value))
  deriving Inhabited

/-- The rest of a text after something has been read from its front. -/
abbrev Reader (α : Type) := List Char → Option (α × List Char)

/-! ## Records in values -/

namespace Value

/-- **`fields names v`** — the fields of a record, in a table by their names or in a list by their
order. A moment is a record without any. -/
def fields (names : List String) : Value → Option (List (Option Value))
  | .table members => some (names.map fun name => members.lookup name)
  | .list items => some ((List.range names.length).map fun i => items[i]?)
  | .moment => some (names.map fun _ => none)
  | _ => none

/-- A text. -/
def text? : Value → Option String
  | .text s => some s
  | _ => none

/-- A flag. -/
def flag? : Value → Option Bool
  | .flag b => some b
  | _ => none

/-- A whole number that is not negative, and below a bound. -/
def below? (bound : Nat) : Value → Option Nat
  | .whole n => if 0 ≤ n ∧ n < bound then some n.toNat else none
  | _ => none

/-- A list of texts. -/
def texts? : Value → Option (List String)
  | .list items => items.mapM text?
  | _ => none

end Value

/-- A field that may be left out. -/
def orDefault {α : Type} (d : α) (read : Value → Option α) : Option Value → Option α
  | none => some d
  | some v => read v

end LanCensus.Toml
