/-
# LanCensus.Device.Record -- devices in JSON

The record of a device in a file and in messages. The address is written as a dotted quad, the time
last seen as an RFC 3339 text and the response time in whole milliseconds. A record that is read
needs an address, a name and a time last seen; every other field has a default.
-/

import LanCensus.Device
import LanCensus.Json.Record
import LanCensus.Time.Rfc3339

namespace LanCensus

/-- The time of an instant. -/
def Instant.toJson (t : Instant) : Json := .string t.text

namespace Device

/-- The milliseconds that a record writes for a response time. -/
def writtenMillis (d : Device) : Nat := d.responseTime.millis % Text.wordBound

/-- **`toJson d`** — the record of a device. -/
def toJson (d : Device) : Json :=
  .object [
    ("address", .string d.address.text),
    ("name", .string d.name),
    ("type", .string d.kind),
    ("mac_address", .string d.mac),
    ("is_online", .bool d.online),
    ("last_seen", d.lastSeen.toJson),
    ("response_time_ms", .ofNat d.writtenMillis)]

/-- **`Draft`** — the fields of a record that have been read so far. -/
structure Draft where
  address : Option Address
  name : Option String
  kind : Option String
  mac : Option String
  online : Option Bool
  lastSeen : Option Instant
  responseMillis : Option Nat

/-- Nothing has been read. -/
def Draft.blank : Draft := ⟨none, none, none, none, none, none, none⟩

/-- The device that has been read, unless a field without a default is missing. -/
def Draft.finish (r : Draft) : Option Device := do
  return {
    address := ← r.address
    name := ← r.name
    kind := r.kind.getD unknown
    mac := r.mac.getD unknown
    online := r.online.getD false
    lastSeen := ← r.lastSeen
    responseTime := .ofMillis (r.responseMillis.getD 0) }

/-- The value of a field, put into the draft. -/
def storing {α : Type} (r : Json.Reader α) (put : α → Draft) : Json.Reader Draft := fun s => do
  let (x, s) ← r s
  return (put x, s)

/-- The fields of a record in their order. -/
def fields : List (Json.Field Draft) := [
  ⟨"address", true, (·.address.isSome), fun r =>
    storing (Json.readMeaning Address.ofString?) fun x => { r with address := some x }⟩,
  ⟨"name", true, (·.name.isSome), fun r =>
    storing Json.readString fun x => { r with name := some x }⟩,
  ⟨"type", false, (·.kind.isSome), fun r =>
    storing Json.readString fun x => { r with kind := some x }⟩,
  ⟨"mac_address", false, (·.mac.isSome), fun r =>
    storing Json.readString fun x => { r with mac := some x }⟩,
  ⟨"is_online", false, (·.online.isSome), fun r =>
    storing Json.readBool fun x => { r with online := some x }⟩,
  ⟨"last_seen", true, (·.lastSeen.isSome), fun r =>
    storing (Json.readMeaning Instant.ofString?) fun x => { r with lastSeen := some x }⟩,
  ⟨"response_time_ms", false, (·.responseMillis.isSome), fun r =>
    storing (Json.readNat Text.wordBound) fun x => { r with responseMillis := some x }⟩]

/-- **`reader`** — reads the record of a device. -/
def reader : Json.Reader Device := Json.readRecord fields .blank Draft.finish

/-- The device that a text holds. -/
def ofText (s : String) : Except Json.Fault Device := Json.readWhole reader s

/-- The devices that a text lists. -/
def listOfText (s : String) : Except Json.Fault (List Device) :=
  Json.readWhole (Json.readList reader) s

/-- A list of devices in JSON. -/
def listToJson (ds : List Device) : Json := .array (ds.map toJson)

end Device

end LanCensus
