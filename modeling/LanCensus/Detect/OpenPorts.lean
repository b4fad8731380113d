/-
# LanCensus.Detect.OpenPorts -- kinds of devices by their open ports

A rule says which label an open port stands for. All ports of a list of rules are tried at once,
and the attempts end in any order; the first rule whose port has turned out to be open decides.
-/

namespace LanCensus.Detect

/-- The name of the detector. -/
def portsName : String := "ports"

/-- Its priority unless another is given. -/
def portsPriority : Int := 30

/-- **`PortRule`** — an open port and what it stands for. -/
structure PortRule where
  port : Nat
  label : String
  deriving DecidableEq, Repr

/-- The rules that are used unless others are given, the most telling port first. -/
def commonPorts : List PortRule := [
  ⟨9100, "Printer"⟩,
  ⟨631, "Printer"⟩,
  ⟨8009, "Chromecast"⟩,
  ⟨62078, "Apple Device"⟩,
  ⟨554, "IP Camera"⟩,
  ⟨1883, "IoT Hub"⟩,
  ⟨32400, "Media Server"⟩,
  ⟨445, "Windows PC"⟩,
  ⟨3389, "Windows PC"⟩,
  ⟨5000, "NAS"⟩,
  ⟨53, "Router"⟩]

/-- The better of a rank and the best one so far. -/
def betterRank (best : Option Nat) (rank : Nat) : Option Nat :=
  some (best.elim rank fun b => min b rank)

/-- The best of the ranks whose attempts succeeded, in the order in which they ended. -/
def bestRank (ended : List (Nat × Bool)) : Option Nat :=
  (ended.filterMap fun (rank, accepted) => if accepted then some rank else none).foldl
    betterRank none

/-- The label that comes of attempts. -/
def labelOfAttempts (rules : List PortRule) (ended : List (Nat × Bool)) : Option String :=
  (bestRank ended).bind fun rank => rules[rank]?.map (·.label)

/-- The attempts on all rules, ended in the order of the rules. -/
def attempts (accepts : Nat → Bool) (rules : List PortRule) : List (Nat × Bool) :=
  (rules.map fun r => accepts r.port).mapIdx fun rank accepted => (rank, accepted)

/-- **`labelByPorts rules accepts`** — the label of a host, given which of its ports accept. -/
def labelByPorts (rules : List PortRule) (accepts : Nat → Bool) : Option String :=
  labelOfAttempts rules (attempts accepts rules)

end LanCensus.Detect
