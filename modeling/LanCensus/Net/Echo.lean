/-
# LanCensus.Net.Echo -- pinging a host

A host is pinged once. The round trip is the time that the output mentions. If a reply came but no
time can be found in the output, the time that passed until then stands for it.
-/

import LanCensus.Net.Address
import LanCensus.Net.Tool
import LanCensus.Text.Rounding
import LanCensus.Text.Utf8
import LanCensus.Time.Instant

namespace LanCensus.Echo

/-- How many seconds a ping waits for a reply, at least one. -/
def waitSeconds (millis : Nat) : Nat :=
  let whole := Text.Rounded.ofNat (millis / 1000)
  let rest := Text.Rounded.ofQuotient (millis % 1000) 1000
  max 1 (min (whole.add rest).ceiling (Text.wordBound - 1))

/-- The arguments of the tool. -/
def arguments (a : Address) (millis : Nat) : List String :=
  ["-n", "-c", "1", "-W", toString (waitSeconds millis), a.text]

/-- The most microseconds that a round trip can have. -/
def longestMicros : Nat := Text.wordBound - 1

/-- **`roundTrip? output`** — the round trip that the output of a ping mentions. -/
def roundTrip? (output : List Char) : Option Span := do
  let rest ← Text.afterFirst "time=".toList output <|> Text.afterFirst "time<".toList output
  let millis ← Text.decimal? (rest.takeWhile Text.isDecimalChar)
  return .ofMicros (min (millis.times 1000).roundUp longestMicros)

/-- **`Reply`** — the reply of a host. -/
inductive Reply where
  /-- The output mentions a round trip. -/
  | timed (roundTrip : Span)
  /-- The output mentions none. -/
  | untimed
  deriving DecidableEq, Repr

/-- **`reply? run`** — the reply of a host, if there was one. -/
def reply? : ToolRun → Option Reply
  | .ended true output =>
    match roundTrip? (Text.Utf8.decodeLossy output) with
    | some t => some (.timed t)
    | none => some .untimed
  | _ => none

end LanCensus.Echo
