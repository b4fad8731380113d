/-
# LanCensus.Net.Tool -- tools of the system

Hosts are pinged and neighbours are listed by tools that the system has. What comes of running one
is all that matters here.
-/

namespace LanCensus

/-- **`ToolRun`** — what comes of running a tool. -/
inductive ToolRun where
  /-- There is no such tool. -/
  | missing
  /-- It did not end in time. -/
  | hanging
  /-- It ended, successfully or not, and this is what it wrote. -/
  | ended (success : Bool) (output : List UInt8)
  deriving DecidableEq, Repr

end LanCensus
