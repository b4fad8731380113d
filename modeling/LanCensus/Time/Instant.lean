/-
# LanCensus.Time.Instant -- points in time and lengths of time

An instant is a count of seconds from the start of 1970 and the nanoseconds after it. A leap second
has no number of its own: its nanoseconds run on from one thousand million within the second
before it. Instants are compared by their seconds first.

Only the instants from the year -262143 to the year 262142 can be written down; `Instant.last`
is the end of that range, and `dueAfter` never leaves it.
-/

namespace LanCensus

/-! ## Lengths of time -/

/-- Nanoseconds in a second. -/
abbrev nanosPerSecond : Nat := 1000000000

/-- Nanoseconds in a millisecond. -/
abbrev nanosPerMilli : Nat := 1000000

/-- **`Span`** — a length of time that is not negative. -/
structure Span where
  nanos : Nat
  deriving DecidableEq, Repr, Inhabited

namespace Span

/-- No time at all. -/
def zero : Span := ⟨0⟩

/-- A whole number of seconds. -/
def ofSeconds (n : Nat) : Span := ⟨n * nanosPerSecond⟩

/-- A whole number of milliseconds. -/
def ofMillis (n : Nat) : Span := ⟨n * nanosPerMilli⟩

/-- A whole number of microseconds. -/
def ofMicros (n : Nat) : Span := ⟨n * 1000⟩

/-- The whole seconds of a span. -/
def seconds (s : Span) : Nat := s.nanos / nanosPerSecond

/-- The whole milliseconds of a span. -/
def millis (s : Span) : Nat := s.nanos / nanosPerMilli

end Span

/-! ## Instants -/

/-- **`Instant`** — a point in time. -/
structure Instant where
  /-- Seconds since the start of 1970. -/
  seconds : Int
  /-- Nanoseconds into the second, from one thousand million on within a leap second. -/
  nanos : Nat
  deriving DecidableEq, Repr, Inhabited

namespace Instant

/-- An instant that lies in no leap second. -/
def IsPlain (t : Instant) : Prop := t.nanos < nanosPerSecond

/-- Whether `a` is earlier than `b`. -/
def before (a b : Instant) : Bool :=
  a.seconds < b.seconds || (a.seconds == b.seconds && a.nanos < b.nanos)

instance : LT Instant := ⟨fun a b => a.before b = true⟩

instance : LE Instant := ⟨fun a b => b.before a = false⟩

instance (a b : Instant) : Decidable (a < b) := inferInstanceAs (Decidable (a.before b = true))

instance (a b : Instant) : Decidable (a ≤ b) := inferInstanceAs (Decidable (b.before a = false))

/-- The later of two instants, the first if neither is later. -/
def later (a b : Instant) : Instant := if a < b then b else a

/-- Nanoseconds since the start of 1970. -/
def toNanos (t : Instant) : Int := t.seconds * nanosPerSecond + t.nanos

/-- The plain instant that many nanoseconds after the start of 1970. -/
def ofNanos (n : Int) : Instant := ⟨n / nanosPerSecond, (n % nanosPerSecond).toNat⟩

/-- How long it is from `a` until `b`, nothing if `b` is not later. -/
def spanTo (a b : Instant) : Span := ⟨(b.toNanos - a.toNanos).toNat⟩

/-- The first second that can be written down, in the year -262143. -/
def firstSecond : Int := -8334601228800

/-- The last second that can be written down, in the year 262142. -/
def lastSecond : Int := 8210266876799

/-- The end of the range of instants. -/
def last : Instant := ⟨lastSecond, 999999999⟩

/-- Whether an instant can be written down. -/
def inRange (t : Instant) : Bool := firstSecond ≤ t.seconds && t.seconds ≤ lastSecond

/-- **`plus t s`** — the instant a span after `t`. Less than the rest of a leap second leads to
another instant of that leap second; from there on the leap second counts as over when it
begins. -/
def plus (t : Instant) (s : Span) : Instant :=
  if nanosPerSecond ≤ t.nanos then
    if t.nanos + s.nanos < 2 * nanosPerSecond then ⟨t.seconds, t.nanos + s.nanos⟩
    else ofNanos (t.seconds * nanosPerSecond + (t.nanos - nanosPerSecond) + s.nanos)
  else ofNanos (t.toNanos + s.nanos)

end Instant

/-! ## Deadlines -/

/-- The longest span that a deadline is computed with: as many milliseconds as a signed 64-bit
number can count. -/
def longestWait : Span := Span.ofMillis 9223372036854775807

/-- **`dueAfter t s`** — the instant a span after `t`, or the last instant if the span is too
long or leads out of the range of instants. -/
def dueAfter (t : Instant) (s : Span) : Instant :=
  if longestWait.nanos < s.nanos then Instant.last
  else if (t.plus s).seconds ≤ Instant.lastSecond then t.plus s
  else Instant.last

end LanCensus
