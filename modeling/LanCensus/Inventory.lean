/-
# LanCensus.Inventory -- the devices of the network

The inventory holds one record for each address that was ever seen, until it is removed. Probe
results are absorbed, a sweep first marks everything offline, and records saved earlier are
restored. Copies are handed out in ascending order of addresses.
-/

import LanCensus.Device
import LanCensus.Net.AddressMap

namespace LanCensus

/-- **`Inventory`** — the known devices by address. -/
structure Inventory where
  devices : AddressMap Device
  deriving DecidableEq, Repr, Inhabited

namespace Inventory

/-- The inventory without devices. -/
def empty : Inventory := ⟨.empty⟩

/-- All records, in ascending order of addresses. -/
def toList (r : Inventory) : List Device := r.devices.values

/-- The record of an address. -/
def find? (r : Inventory) (a : Address) : Option Device := r.devices.get? a

/-- The number of devices. -/
def size (r : Inventory) : Nat := r.devices.size

/-- The record is stored under its address, in the place of any other. -/
def store (r : Inventory) (d : Device) : Inventory := ⟨r.devices.insert d.address d⟩

/-! ## Operations -/

/-- Takes a saved record in, unless a record of the address is there that was seen at the same
time or later. -/
def restoreOne (r : Inventory) (d : Device) : Inventory :=
  match r.find? d.address with
  | some known => if d.lastSeen ≤ known.lastSeen then r else r.store d
  | none => r.store d

/-- **`restore r ds`** — takes saved records in, one after another. -/
def restore (r : Inventory) (ds : List Device) : Inventory := ds.foldl restoreOne r

/-- The record that `absorb` stores: the probe result alone, or merged into the known record. -/
def merged (r : Inventory) (d : Device) : Device :=
  match r.find? d.address with
  | some known => known.merge d
  | none => d

/-- **`absorb r d`** — the inventory after a probe result. The record keeps its place. -/
def absorb (r : Inventory) (d : Device) : Inventory := ⟨r.devices.insert d.address (r.merged d)⟩

/-- Whether `absorb` would add a device. -/
def isNew (r : Inventory) (d : Device) : Bool := !r.devices.contains d.address

/-- How many devices are online. -/
def onlineCount (r : Inventory) : Nat := r.toList.countP (·.online)

/-- **`allOffline r`** — the inventory ahead of a sweep. -/
def allOffline (r : Inventory) : Inventory := ⟨r.devices.map Device.offline⟩

/-- **`offline r a`** — the inventory after a missed probe; an unknown address stays unknown. -/
def offline (r : Inventory) (a : Address) : Inventory :=
  match r.find? a with
  | some known => ⟨r.devices.insert a known.offline⟩
  | none => r

/-- **`remove r a`** — the inventory without the address. -/
def remove (r : Inventory) (a : Address) : Inventory := ⟨r.devices.erase a⟩

end Inventory

end LanCensus
