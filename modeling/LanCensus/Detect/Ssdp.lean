/-
# LanCensus.Detect.Ssdp -- searching for devices that describe themselves

A search is sent to all hosts of the local network at once. Each reply comes from the address of a
device and says in a header `LOCATION` where its description is. The first reply with a usable
location counts for its origin, and replies without one hide nothing.
-/

import LanCensus.Net.AddressMap
import LanCensus.Text.Utf8

namespace LanCensus.Detect

/-! ## The search -/

/-- How many seconds devices may take to reply to a search that lasts so many milliseconds. -/
def replySeconds (window : Nat) : Nat := max 1 (min 5 (window / 1000))

/-- **`searchRequest window`** — the text that is sent. -/
def searchRequest (window : Nat) : String :=
  "M-SEARCH * HTTP/1.1\r\n" ++
  "HOST: 239.255.255.250:1900\r\n" ++
  "MAN: \"ssdp:discover\"\r\n" ++
  s!"MX: {replySeconds window}\r\n" ++
  "ST: upnp:rootdevice\r\n\r\n"

/-! ## Replies -/

/-- The name of the header that says where a description is. -/
def locationHeader : String := "location"

/-- The location in a line of a reply. -/
def locationInLine? (line : List Char) : Option (List Char) := do
  let (name, value) ← Text.splitOnce ':' line
  let value := Text.trim value
  if Text.asciiLower (Text.trim name) = locationHeader.toList && !value.isEmpty then some value
  else none

/-- **`locationIn? reply`** — the first location in a reply. -/
def locationIn? (reply : List Char) : Option (List Char) :=
  (Text.lines reply).findSome? locationInLine?

/-- How many bytes of a reply are looked at. -/
def replyLimit : Nat := 2048

/-- The location in the bytes of a reply. -/
def locationInBytes? (bytes : List UInt8) : Option (List Char) :=
  locationIn? (Text.Utf8.decodeLossy (bytes.take replyLimit))

/-- **`Arrival`** — what may arrive while a search lasts. -/
inductive Arrival where
  /-- A reply from an address. -/
  | reply (origin : Address) (bytes : List UInt8)
  /-- A reply from an address of another kind. -/
  | foreign
  /-- Nothing more can be received. -/
  | fault
  deriving DecidableEq, Repr

/-- Locations of descriptions by the addresses of devices. -/
abbrev Responders := AddressMap (List Char)

/-- One more arrival. An origin keeps the location that it has. -/
def Responders.hear (found : Responders) (origin : Address) (bytes : List UInt8) : Responders :=
  match locationInBytes? bytes with
  | some location => if found.contains origin then found else found.insert origin location
  | none => found

/-- What has been found when the arrivals are over. -/
def respondersFrom (found : Responders) : List Arrival → Responders
  | [] => found
  | .reply origin bytes :: rest => respondersFrom (found.hear origin bytes) rest
  | .foreign :: rest => respondersFrom found rest
  | .fault :: _ => found

/-- **`responders arrivals`** — the devices that a search finds. -/
def responders (arrivals : List Arrival) : Responders := respondersFrom .empty arrivals

/-- What a search finds that lasts so many milliseconds; one that lasts none hears nothing. -/
def searchResult (window : Nat) (arrivals : List Arrival) : Responders :=
  if window = 0 then .empty else responders arrivals

end LanCensus.Detect
