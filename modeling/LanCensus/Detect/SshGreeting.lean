/-
# LanCensus.Detect.SshGreeting -- kinds of devices by their SSH greeting

A server of the SSH protocol identifies itself in a line of its own, before which it may send a
few others. The name of the software in it tells what kind of device it runs on.

What a server sends arrives in pieces, which may be cut anywhere, each in its own time. A line is
complete with its line feed, or when the server ends; one that is not complete in time is not waited
for.
-/

import LanCensus.Text.Letter
import LanCensus.Text.Blank
import LanCensus.Text.Utf8

namespace LanCensus.Detect

/-- The name of the detector. -/
def greetingName : String := "ssh"

/-- Its priority unless another is given. -/
def greetingPriority : Int := 20

/-- The port at which SSH servers are expected. -/
def sshPort : Nat := 22

/-! ## Labels -/

/-- Parts of greetings and what they stand for; the first that occurs counts. -/
def greetingHints : List (String × String) := [
  ("raspbian", "Raspberry Pi"),
  ("ubuntu", "Linux (Ubuntu)"),
  ("debian", "Linux (Debian)"),
  ("freebsd", "FreeBSD Host"),
  ("for_windows", "Windows PC"),
  ("rosssh", "MikroTik Router"),
  ("cisco", "Network Equipment"),
  ("dropbear", "Embedded Linux"),
  ("openssh", "Linux/Unix Host")]

/-- The label of a greeting without a hint. -/
def plainSshLabel : String := "SSH Host"

/-- Whether a line is a greeting. -/
def isGreeting (line : List Char) : Bool := "SSH-".toList.isPrefixOf line

/-- **`labelOfGreeting line`** — the label of a greeting, if the line is one. -/
def labelOfGreeting (line : List Char) : Option String :=
  if isGreeting line then
    let low := Text.lower line
    some (((greetingHints.find? fun (hint, _) => Text.occursIn hint.toList low).map (·.2)).getD
      plainSshLabel)
  else none

/-! ## Lines from a server -/

/-- **`Piece`** — bytes that arrive at once. -/
structure Piece where
  /-- How many milliseconds after the piece before it, or after the server has accepted. -/
  delay : Nat
  bytes : List UInt8

/-- **`Inflow`** — what arrives from a server. -/
structure Inflow where
  /-- How many milliseconds ago the server accepted. -/
  now : Nat
  /-- What has arrived and not been used. -/
  buffer : List UInt8
  /-- The pieces that are still to arrive. -/
  pieces : List Piece
  /-- How many milliseconds after them the server ends; otherwise it keeps silent. -/
  ends : Option Nat

/-- What a server sends that has just accepted. -/
def Inflow.start (pieces : List Piece) (ends : Option Nat) : Inflow := ⟨0, [], pieces, ends⟩

/-- The bytes up to and including the first line feed, and those after it. -/
def cutLine : List UInt8 → Option (List UInt8 × List UInt8)
  | [] => none
  | b :: rest =>
    if b = 0x0A then some ([b], rest) else (cutLine rest).map fun (line, more) => (b :: line, more)

/-- The next line, from the pieces that are still to arrive and a buffer in front of them; it is
empty at the end, and there is none if it is not complete by the deadline. -/
def takeLine (deadline : Nat) (ends : Option Nat) :
    Nat → List Piece → List UInt8 → Option (List UInt8 × Inflow)
  | now, pieces, buffer =>
    match cutLine buffer, pieces with
    | some (line, rest), pieces => some (line, ⟨now, rest, pieces, ends⟩)
    | none, piece :: more =>
      if now + piece.delay ≤ deadline then
        takeLine deadline ends (now + piece.delay) more (buffer ++ piece.bytes)
      else none
    | none, [] =>
      match ends with
      | some delay =>
        if now + delay ≤ deadline then some (buffer, ⟨now + delay, [], [], some 0⟩) else none
      | none => none

/-- The next line of what arrives, if it is complete within `wait` milliseconds. -/
def Inflow.line (wait : Nat) (f : Inflow) : Option (List UInt8 × Inflow) :=
  takeLine (f.now + wait) f.ends f.now f.pieces f.buffer

/-- How many lines are looked at. -/
def greetingLines : Nat := 4

/-- The greeting among the next lines, for each of which one waits as long. A line that is not text
ends the search. -/
def greetingWithin (wait : Nat) : Nat → Inflow → Option (List Char)
  | 0, _ => none
  | n + 1, f =>
    match f.line wait with
    | none => none
    | some (bytes, f) =>
      match Text.Utf8.decode? bytes with
      | none => none
      | some [] => none
      | some line => if isGreeting line then some (Text.trim line) else greetingWithin wait n f

/-- **`labelByGreeting wait f`** — the label of a server that sends `f`, to somebody who waits `wait`
milliseconds for each line. -/
def labelByGreeting (wait : Nat) (f : Inflow) : Option String :=
  (greetingWithin wait greetingLines f).bind labelOfGreeting

end LanCensus.Detect
