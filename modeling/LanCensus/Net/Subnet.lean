/-
# LanCensus.Net.Subnet -- the /24 networks that are swept

A subnet is named by the first three octets of its addresses, for instance 192.168.1, and a sweep
appends the last octets to it. Names come from the configuration or from the interfaces of the
host; `Subnet.parse?` says which texts are names.
-/

import LanCensus.Net.Address
import LanCensus.Text.Quoted

namespace LanCensus

/-- **`Subnet`** — the 256 addresses that share their first three octets. -/
structure Subnet where
  first : UInt8
  second : UInt8
  third : UInt8
  deriving DecidableEq, Repr

namespace Subnet

/-- The address of the subnet with the given last octet. -/
def host (n : Subnet) (last : UInt8) : Address := ⟨n.first, n.second, n.third, last⟩

/-- The subnet that an address belongs to. -/
def ofAddress (a : Address) : Subnet := ⟨a.first, a.second, a.third⟩

/-- The name of the subnet. -/
def name (n : Subnet) : String := s!"{n.first.toNat}.{n.second.toNat}.{n.third.toNat}"

/-- One octet of a name: digits with an optional plus sign, at most 255. -/
def octet? (s : List Char) : Option UInt8 := (Text.unsigned? 10 256 s).map (·.toUInt8)

/-- **`parse? s`** — the subnet that a text names: three octets between dots, blanks around them
ignored. -/
def parse? (s : String) : Option Subnet :=
  match Text.splitAt '.' (Text.trim s.toList) with
  | [a, b, c] => do return ⟨← octet? a, ← octet? b, ← octet? c⟩
  | _ => none

end Subnet

/-! ## Where subnets come from -/

/-- **`SubnetError`** — why there is no list of subnets. -/
inductive SubnetError where
  /-- A text that names no subnet. -/
  | invalid (name : String)
  /-- The interfaces of the host could not be listed. -/
  | interfaces (reason : String)
  deriving DecidableEq, Repr

/-- The name of a subnet error. -/
def SubnetError.name : SubnetError → String
  | .invalid _ => "InvalidPrefix"
  | .interfaces _ => "Interfaces"

/-- The wording of a subnet error. -/
def SubnetError.message : SubnetError → String
  | .invalid name =>
    s!"Invalid subnet prefix {Text.quoted name}, expected three octets like \"192.168.1\""
  | .interfaces reason => s!"Failed to enumerate network interfaces: {reason}"

/-- The subnet that a text names, or the error that mentions the text. -/
def Subnet.read (s : String) : Except SubnetError Subnet :=
  match Subnet.parse? s with
  | some n => .ok n
  | none => .error (.invalid s)

/-- **`fixedSubnets names`** — a fixed list of names is accepted if every one of them names a
subnet; the first that does not is the error. -/
def fixedSubnets : List String → Except SubnetError (List String)
  | [] => .ok []
  | name :: rest => do
    let _ ← Subnet.read name
    return name :: (← fixedSubnets rest)

/-! ## Interfaces of the host -/

/-- **`Interface`** — a network interface with its addresses; `none` is an address that is not
IPv4. -/
structure Interface where
  name : String
  addresses : List (Option Address)

/-- Interfaces whose names begin like this never carry the network that is watched. -/
def ignoredNames : List String := ["lo", "docker", "veth", "br-", "virbr", "tun", "tap"]

/-- Whether an interface is left out because of its name. -/
def Interface.isIgnored (i : Interface) : Bool :=
  ignoredNames.any (·.toList.isPrefixOf i.name.toList)

/-- An address that stands for a network to sweep. -/
def Address.isLan (a : Address) : Bool := !(a.isLoopback || a.isLinkLocal || a.isUnspecified)

/-- The names of the subnets that the addresses of an interface lie in. -/
def Interface.subnetNames (i : Interface) : List String :=
  if i.isIgnored then []
  else (i.addresses.filterMap id).filter Address.isLan |>.map fun a => (Subnet.ofAddress a).name

/-- Keeps the first of equal elements. -/
def firstOccurrences {α : Type} [BEq α] (seen : List α) : List α → List α
  | [] => []
  | x :: rest =>
    if seen.contains x then firstOccurrences seen rest
    else x :: firstOccurrences (x :: seen) rest

/-- **`localSubnets interfaces`** — the names of the subnets of the host, each once, in the order
in which they first appear. -/
def localSubnets (interfaces : List Interface) : List String :=
  firstOccurrences [] (interfaces.flatMap Interface.subnetNames)

end LanCensus
