/-
# LanCensus.Service.Failure -- why the program gives up

A failure has a message and the causes behind it, the nearest first. It is reported in one
paragraph or in one line.
-/

namespace LanCensus.Service

/-- **`Failure`** — a message and its causes. -/
structure Failure where
  message : String
  causes : List String
  deriving DecidableEq, Repr

namespace Failure

/-- The failure in one line. -/
def line (f : Failure) : String := ": ".intercalate (f.message :: f.causes)

/-- The causes as they are listed; several of them are numbered. -/
def causeLines : List String → List String
  | [] => []
  | [cause] => ["    " ++ cause]
  | causes => causes.mapIdx fun i cause => s!"    {i}: {cause}"

/-- **`report f`** — the failure as it is reported to whoever started the program. -/
def report (f : Failure) : String :=
  if f.causes.isEmpty then s!"Error: {f.message}\n"
  else
    "Error: " ++ f.message ++ "\n\nCaused by:\n" ++ "\n".intercalate (causeLines f.causes) ++ "\n"

end Failure

end LanCensus.Service
