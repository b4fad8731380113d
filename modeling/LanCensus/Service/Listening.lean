/-
# LanCensus.Service.Listening -- where the service listens

The service listens at a port of a local address. The address is written in numbers or is the name
of the host itself; no other name can be looked up.
-/

import LanCensus.Net.Address6
import LanCensus.Net.Fetch
import LanCensus.Service.Failure

namespace LanCensus.Service

/-- What stands before and after the last colon. -/
def splitLast (s : List Char) : Option (List Char × List Char) :=
  (Text.splitOnce ':' s.reverse).map fun (after, before) => (before.reverse, after.reverse)

/-- Whether an address belongs to the host itself. -/
def isLocal (a : Address) : Bool := a.isLoopback || a.isUnspecified

/-- Why nobody can listen at an address of another host. -/
def foreignAddress : String := "Cannot assign requested address (os error 99)"

/-- Why nobody can listen at a host whose name is not known. -/
def unknownHost : String :=
  "failed to lookup address information: Temporary failure in name resolution"

/-- Why nobody can listen at a host, if so. -/
def hostFault? (host : List Char) : Option String :=
  match Address.parse? host with
  | some a => if isLocal a then none else some foreignAddress
  | none => if host = "localhost".toList then none else some unknownHost

/-- An IPv6 address in brackets that belongs to the host itself. -/
def isLocal6 (host : List Char) : Bool :=
  match host with
  | '[' :: rest =>
    rest.getLast? = some ']' &&
      (Address6.parse? rest.dropLast).any fun a => a.groups.dropLast.all (· = 0) && a.groups.getLast?.any (· ≤ 1)
  | _ => false

/-- **`listenFault? bind`** — why nobody can listen at `bind`, if so. -/
def listenFault? (bind : String) : Option String :=
  match splitLast bind.toList with
  | none => some "invalid socket address"
  | some (host, port) =>
    match Text.unsigned? 10 65536 port with
    | none => some "invalid port value"
    | some _ => if isLocal6 host then none else hostFault? host

/-- **`listenFailure? bind`** — the failure to listen at `bind`, if it is one. -/
def listenFailure? (bind : String) : Option Failure :=
  (listenFault? bind).map fun fault => ⟨s!"Failed to bind {bind}", [fault]⟩

end LanCensus.Service
