/-
# LanCensus.Net.Neighbour -- the neighbour table

The system keeps a table of the hosts it has talked to on the local network, with their hardware
addresses. It is read from the output of a tool, line by line, or from a file if the tool fails.
The two look different and tell the same.
-/

import LanCensus.Net.Address
import LanCensus.Net.Tool
import LanCensus.Text.Letter
import LanCensus.Text.Utf8

namespace LanCensus

/-- **`Freshness`** — what the system thinks of an entry. -/
inductive Freshness where
  | reachable
  | stale
  | delay
  | probe
  | failed
  | incomplete
  | permanent
  | unknown
  deriving DecidableEq, Repr

/-- The name of a freshness. -/
def Freshness.name : Freshness → String
  | .reachable => "Reachable"
  | .stale => "Stale"
  | .delay => "Delay"
  | .probe => "Probe"
  | .failed => "Failed"
  | .incomplete => "Incomplete"
  | .permanent => "Permanent"
  | .unknown => "Unknown"

/-- The freshness that a word means, in letters of any case. -/
def Freshness.ofWord (w : List Char) : Freshness :=
  match String.ofList (Text.upper w) with
  | "REACHABLE" => .reachable
  | "STALE" => .stale
  | "DELAY" => .delay
  | "PROBE" => .probe
  | "FAILED" => .failed
  | "INCOMPLETE" => .incomplete
  | "PERMANENT" => .permanent
  | _ => .unknown

/-- The freshness that flags mean. -/
def Freshness.ofFlags (flags : Nat) : Freshness :=
  if flags = 0 then .incomplete
  else if flags.testBit 2 then .permanent
  else if flags.testBit 1 then .reachable
  else .unknown

/-- **`Neighbour`** — an entry of the table. -/
structure Neighbour where
  address : Address
  /-- The hardware address, in small letters; empty if there is none. -/
  mac : String
  interface : String
  freshness : Freshness
  deriving DecidableEq, Repr

namespace Neighbour

/-- The text in place of a hardware address that is not known. -/
def blankMac : String := "00:00:00:00:00:00"

/-- Whether an entry tells a hardware address that can be used. -/
def isUsable (n : Neighbour) : Bool :=
  n.mac ≠ "" && n.mac ≠ blankMac && n.freshness ≠ .failed && n.freshness ≠ .incomplete

/-! ## Lines -/

/-- What follows the first occurrence of a word. -/
def afterWord (w : String) : List (List Char) → Option (List (List Char))
  | [] => none
  | x :: rest => if x = w.toList then some rest else afterWord w rest

/-- A hardware address in small letters. -/
def macOf (w : List Char) : String := String.ofList (Text.lower w)

/-- **`ofToolLine? line`** — the entry in a line of the tool's output: the address, then words of
which one follows `dev` and one may follow `lladdr`, and last the freshness. -/
def ofToolLine? (line : List Char) : Option Neighbour :=
  let parts := Text.words line
  match parts with
  | first :: _ :: _ :: last :: more => do
    let address ← Address.parse? first
    let interface ← (← afterWord "dev" parts).head?
    let mac := ((afterWord "lladdr" parts).bind List.head?).elim "" macOf
    return ⟨address, mac, String.ofList interface, .ofWord (more.getLastD last)⟩
  | _ => none

/-- Drops the mark of a hexadecimal number, also if it is repeated. -/
def dropHexMarks : List Char → List Char
  | '0' :: 'x' :: rest => dropHexMarks rest
  | s => s

/-- **`ofFileLine? line`** — the entry in a line of the file. -/
def ofFileLine? (line : List Char) : Option Neighbour :=
  match Text.words line with
  | first :: _ :: flags :: mac :: _ :: interface :: _ => do
    let address ← Address.parse? first
    let flags ← Text.unsigned? 16 Text.halfWordBound (dropHexMarks flags)
    return ⟨address, macOf mac, String.ofList interface, .ofFlags flags⟩
  | _ => none

/-! ## Tables -/

/-- The entries in the output of the tool. -/
def ofToolOutput (s : List Char) : List Neighbour := (Text.lines s).filterMap ofToolLine?

/-- The entries in the file, whose first line is a heading. -/
def ofFile (s : List Char) : List Neighbour := ((Text.lines s).drop 1).filterMap ofFileLine?

/-- What is said if there is no table. -/
def tableMissing : String := "Failed to read /proc/net/arp"

/-- **`table run file`** — the table, from the output of the tool or else from the file, if it
exists and is text. -/
def table (run : ToolRun) (file : Option (List UInt8)) : Except String (List Neighbour) :=
  match run with
  | .ended true output => .ok (ofToolOutput (Text.Utf8.decodeLossy output))
  | _ =>
    match file.bind Text.Utf8.decode? with
    | some s => .ok (ofFile s)
    | none => .error tableMissing

/-- The hardware address of a host in a table. -/
def macIn (table : List Neighbour) (a : Address) : Option String :=
  (table.find? fun n => n.address = a && n.isUsable).map (·.mac)

/-- **`mac? run file a`** — the hardware address of a host. A tool that does not end in time is
not waited for, and then nothing is known. -/
def mac? (run : ToolRun) (file : Option (List UInt8)) (a : Address) : Option String :=
  match run with
  | .hanging => none
  | run => (table run file).toOption.bind fun t => macIn t a

end Neighbour

end LanCensus
