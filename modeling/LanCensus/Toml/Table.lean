/-
# LanCensus.Toml.Table -- tables put together from their lines

A line of a configuration gives a value to a key, and the key may lead through several tables. A
heading says to which table the lines after it belong, or begins another table of a list of tables.
A table may be opened once only, by a heading or by keys that lead through it. A heading may still
state a table that has only been implied by headings of tables within.
-/

import LanCensus.Toml.Value

namespace LanCensus.Toml

/-! ## Tables under construction -/

/-- **`Standing`** — how a table came to be. -/
inductive Standing where
  /-- A heading leads through it. -/
  | implied
  /-- A key leads through it. -/
  | led
  /-- A heading names it. -/
  | stated
  deriving DecidableEq, Repr

/-- **`Node`** — what has been put under a name. -/
inductive Node where
  | value (v : Value)
  | table (standing : Standing) (members : List (String × Node))
  /-- A list of tables, each begun by a heading. -/
  | tables (items : List (List (String × Node)))

/-- What has been put into a table. -/
abbrev Members := List (String × Node)

namespace Members

/-- The members with another node under a name that is there. -/
def replace (ms : Members) (name : String) (n : Node) : Members :=
  ms.map fun (other, m) => if other = name then (other, n) else (other, m)

/-- **`change led f names standing ms`** — changes the table to which names lead from a table. A
table that is missing on the way is made; `led` says whether it is a key that leads there. Keys
do not lead through a table that has been stated, nor do any names lead through a value. In a list
of tables they lead to the last one. -/
def change (led : Bool) (f : Standing → Members → Option Members) :
    List String → Standing → Members → Option Members
  | [], standing, ms => f standing ms
  | name :: names, _, ms =>
    match ms.lookup name with
    | none => do
      let standing := if led then Standing.led else .implied
      return ms ++ [(name, .table standing (← change led f names standing []))]
    | some (.table standing inner) =>
      if led && standing = .stated then none
      else do return ms.replace name (.table standing (← change led f names standing inner))
    | some (.tables items) => do
      let last ← change led f names .stated (← items.getLast?)
      return ms.replace name (.tables (items.dropLast ++ [last]))
    | some (.value _) => none

/-- **`define names name v ms`** — gives a value to a key whose names before the last one are
`names`. A key cannot lead into a table that a heading has implied. -/
def define (names : List String) (name : String) (v : Value) : Members → Option Members :=
  change true
    (fun standing ms =>
      if (standing == .led) == names.isEmpty || (ms.lookup name).isSome then none
      else some (ms ++ [(name, .value v)]))
    names .stated

/-- **`state names name ms`** — states the table of a heading. -/
def state (names : List String) (name : String) : Members → Option Members :=
  change false
    (fun _ ms =>
      match ms.lookup name with
      | none => some (ms ++ [(name, .table .stated [])])
      | some (.table .implied inner) => some (ms.replace name (.table .stated inner))
      | some _ => none)
    names .stated

/-- **`extend names name ms`** — begins another table of a list of tables. -/
def extend (names : List String) (name : String) : Members → Option Members :=
  change false
    (fun _ ms =>
      match ms.lookup name with
      | none => some (ms ++ [(name, .tables [[]])])
      | some (.tables items) => some (ms.replace name (.tables (items ++ [[]])))
      | some _ => none)
    names .stated

end Members

/-! ## Finished tables -/

mutual

/-- The value that a node has become. -/
def Node.toValue : Node → Value
  | .value v => v
  | .table _ members => .table (memberValues members)
  | .tables items => .list (itemValues items)

/-- The members that a table has got. -/
def memberValues : Members → List (String × Value)
  | [] => []
  | (name, n) :: rest => (name, n.toValue) :: memberValues rest

/-- The tables of a list. -/
def itemValues : List Members → List Value
  | [] => []
  | members :: rest => .table (memberValues members) :: itemValues rest

end

/-- The table that members make. -/
def Members.toValue (ms : Members) : Value := .table (memberValues ms)

end LanCensus.Toml
