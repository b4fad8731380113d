/-
# LanCensus.Net.HostName -- names of hosts

The system may know the name of a host. An answer that only repeats an address is no name, and
blanks around a name and dots at its end do not belong to it.
-/

import LanCensus.Net.Address6
import LanCensus.Time.Instant

namespace LanCensus

/-- **`hostName? answer a`** — the name of the host `a` in an answer of the system. -/
def hostName? (answer : List Char) (a : Address) : Option String :=
  let name := Text.dropEndWhile (· = '.') (Text.trim answer)
  if name.isEmpty || isAddressLiteral name || name = a.text.toList then none
  else some (String.ofList name)

/-- **`HostNameLookup`** — how the system was asked for a name. -/
structure HostNameLookup where
  /-- What it answered, if it found anything. -/
  answer : Option String
  /-- How long it took. -/
  took : Span
  /-- How long it was waited for. -/
  patience : Span

/-- The name that comes of a lookup; an answer that comes too late is none. -/
def HostNameLookup.name? (l : HostNameLookup) (a : Address) : Option String :=
  if l.patience.nanos < l.took.nanos then none
  else l.answer.bind fun s => hostName? s.toList a

end LanCensus
