/-
# LanCensus.Service.Requests -- requests and their answers

What a client can ask for without a socket. Most requests are answered in one turn. One that runs
a sweep or probes an address is answered when that is over.

A request that is refused leaves everything as it is, but for a progress message about a text
that is no address.
-/

import LanCensus.Census.Control
import LanCensus.Census.Probing
import LanCensus.Service.Desk
import LanCensus.Service.Target
import LanCensus.Text.Percent

namespace LanCensus.Service

/-! ## Requests -/

/-- **`Request`** — a request whose target has been found to be one. -/
structure Request where
  method : String
  path : List Char
  headers : List (String × String)
  deriving Repr

/-- The value of a header; the case of its name does not count. -/
def Request.header? (r : Request) (name : String) : Option String :=
  (r.headers.find? fun h => Text.asciiLower h.1.toList == name.toList).map (·.2)

/-- Characters that the name of a method consists of. -/
def isMethodChar (c : Char) : Bool := c.isAlphanum || "!#$%&'*+-.^_`|~".contains c

/-- **`make? method target headers`** — a request, unless it is not well formed. -/
def Request.make? (method target : String) (headers : List (String × String)) :
    Option Request := do
  let path ← targetPath? target
  if method.isEmpty || !method.all isMethodChar then none
  else some ⟨method, path, headers⟩

/-! ## Answers -/

/-- **`Body`** — what an answer holds. -/
inductive Body where
  | json (v : Json)
  | text (s : String)

/-- **`Response`** — an answer. -/
structure Response where
  status : Nat
  headers : List (String × String)
  body : Body

namespace Response

/-- An answer in JSON. -/
def json (status : Nat) (v : Json) : Response :=
  ⟨status, [("content-type", "application/json")], .json v⟩

/-- An answer in plain text. -/
def plain (status : Nat) (s : String) : Response :=
  ⟨status, [("content-type", "text/plain; charset=utf-8")], .text s⟩

/-- An answer without a body. -/
def bare (status : Nat) : Response := ⟨status, [], .text ""⟩

/-- A refusal and its reason. -/
def refusal (status : Nat) (reason : String) : Response :=
  json status (.object [("error", .string reason)])

/-- A refusal of the method; only some others are allowed. -/
def wrongMethod (allowed : String) : Response := ⟨405, [("allow", allowed)], .text ""⟩

/-- The answer without its body. -/
def silenced (r : Response) : Response := { r with body := .text "" }

/-- The answer with another header. -/
def withHeader (r : Response) (name value : String) : Response :=
  { r with headers := r.headers ++ [(name, value)] }

end Response

/-! ## Routes -/

/-- **`Place`** — a path that leads somewhere. -/
inductive Place where
  | devices
  | device (address : List Char)
  | status
  | sweep
  | pause
  | resume
  | probe (address : List Char)
  | socket
  deriving DecidableEq, Repr

/-- **`place? path`** — where a path leads. -/
def place? (path : List Char) : Option Place :=
  match (Text.splitAt '/' path).map String.ofList with
  | ["", "api", "devices"] => some .devices
  | ["", "api", "devices", a] => if a = "" then none else some (.device a.toList)
  | ["", "api", "status"] => some .status
  | ["", "api", "scan"] => some .sweep
  | ["", "api", "scan", "pause"] => some .pause
  | ["", "api", "scan", "resume"] => some .resume
  | ["", "api", "probe", a] => if a = "" then none else some (.probe a.toList)
  | ["", "ws"] => some .socket
  | _ => none

/-- The methods that a place knows. -/
def Place.methods : Place → List String
  | .devices | .status | .probe _ | .socket => ["GET", "HEAD"]
  | .device _ => ["DELETE"]
  | .sweep | .pause | .resume => ["POST"]

/-! ## Handling -/

/-- **`Office`** — a census and its desk. -/
structure Office where
  census : Census
  desk : Desk
  deriving DecidableEq, Repr

/-- **`Handling`** — what comes of a request. -/
inductive Handling where
  /-- It is answered. -/
  | answer (r : Response)
  /-- It is answered when the sweep is over. -/
  | afterSweep (id : Nat)
  /-- It is answered when the lookup is over. -/
  | afterLookup (id : Nat)

namespace Office

/-- What the census is doing, in JSON. -/
def activityJson (c : Census) : Json := .object [("state", .string c.activity.name)]

/-- The state of the service in JSON; `detectors` are the names of its detectors. -/
def statusJson (s : Office) (detectors : List String) : Json :=
  .object [
    ("state", .string s.census.activity.name),
    ("devices", .ofNat s.census.inventory.size),
    ("online", .ofNat s.census.inventory.onlineCount),
    ("next_scan", optionalTime s.census.nextSweep),
    ("last_scan", optionalTime s.census.lastSweep),
    ("last_connected_ip", Json.ofOption .string (s.desk.settings.get? lastProbedName)),
    ("detectors", .array (detectors.map .string)),
    ("options", s.census.options.toJson)]

/-- A text that was to be an address. -/
def withText (s : Office) (escaped : List Char) (f : String → Office × Handling) :
    Office × Handling :=
  match Text.unescape? escaped with
  | some text => f (String.ofList text)
  | none => (s, .answer (.plain 400 "Invalid URL: Invalid UTF-8 in `ip`"))

/-- The refusal of a text that is no address. -/
def noAddress (text : String) : Response := .refusal 400 s!"Invalid IP address: {text}"

/-- **`remove s text`** — takes a device out of the inventory and saves that. -/
def remove (s : Office) (text : String) : Office × Handling :=
  match Address.ofString? text with
  | none => (s, .answer (noAddress text))
  | some a =>
    if (s.census.inventory.find? a).isNone then (s, .answer (.refusal 404 "Device not found"))
    else
      let census := s.census.remove a
      let desk := (s.desk.save census.inventory).1
      (⟨census, desk⟩,
        .answer (.json 200 (.object [("status", .string "removed"), ("ip", .string a.text)])))

/-- **`probe s text`** — begins to probe an address on demand. -/
def probe (s : Office) (text : String) : Office × Handling :=
  let after := { s with census := s.census.beginLookup text }
  match Address.parse? (Text.trim text.toList) with
  | none => (after, .answer (noAddress text))
  | some _ => (after, .afterLookup s.census.fresh)

/-- **`probed s d`** — an address has been probed on demand. -/
def probed (s : Office) (d : Device) : Office × Response :=
  ({ s with desk := s.desk.rememberProbed d.address }, .json 200 d.toJson)

/-- **`sweep s`** — begins a sweep on demand. -/
def sweep (s : Office) : Office × Handling :=
  if s.census.sweeping then (s, .answer (.refusal 409 "Scan already in progress"))
  else ({ s with census := s.census.requestSweep none }, .afterSweep s.census.fresh)

/-- **`swept inventory`** — a sweep on demand is over. -/
def swept (inventory : List Device) : Response :=
  .json 200 (.object [
    ("status", .string "completed"),
    ("devices_found", .ofNat inventory.length),
    ("online", .ofNat (inventory.countP (·.online)))])

/-- The reason why a request cannot be turned into a socket; it is never the beginning of one. -/
def socketRefusal (r : Request) : Response :=
  let states (name : String) (value : String) : Bool :=
    ((r.header? name).map fun v => Text.asciiLower v.toList) = some value.toList
  let mentions (name : String) (value : String) : Bool :=
    match r.header? name with
    | some v => Text.occursIn value.toList (Text.asciiLower v.toList)
    | none => false
  if r.method ≠ "GET" then .plain 405 "Request method must be `GET`"
  else if !mentions "connection" "upgrade" then
    .plain 400 "Connection header did not include 'upgrade'"
  else if !states "upgrade" "websocket" then
    .plain 400 "`Upgrade` header did not include 'websocket'"
  else if (r.header? "sec-websocket-key").isNone then
    .plain 400 "`Sec-WebSocket-Key` header missing"
  else if !states "sec-websocket-version" "13" then
    .plain 400 "`Sec-WebSocket-Version` header did not include '13'"
  else
    .plain 426 "WebSocket request couldn't be upgraded since no upgrade state was present"

/-- Handles a request with a method that its place knows. -/
def visit (s : Office) (detectors : List String) (r : Request) : Place → Office × Handling
  | .devices => (s, .answer (.json 200 (Device.listToJson s.census.inventory.toList)))
  | .status => (s, .answer (.json 200 (s.statusJson detectors)))
  | .device a => s.withText a s.remove
  | .probe a => s.withText a s.probe
  | .sweep => s.sweep
  | .pause =>
    let census := s.census.pause
    ({ s with census }, .answer (.json 200 (activityJson census)))
  | .resume =>
    let census := s.census.resume
    ({ s with census }, .answer (.json 200 (activityJson census)))
  | .socket => (s, .answer (socketRefusal r))

/-- **`handle s detectors r`** — handles a request. -/
def handle (s : Office) (detectors : List String) (r : Request) : Office × Handling :=
  if r.method = "OPTIONS" then
    (s, .answer ⟨200,
      [("access-control-allow-methods", "*"), ("access-control-allow-headers", "*")], .text ""⟩)
  else
    match place? r.path with
    | none => (s, .answer (.bare 404))
    | some place =>
      if r.method ∈ place.methods then s.visit detectors r place
      else (s, .answer (.wrongMethod (",".intercalate place.methods)))

/-- **`finish r response`** — the answer as it is sent: anyone may read it, and it has no body if
only its headers were asked for. -/
def finish (r : Request) (response : Response) : Response :=
  let response := response.withHeader "access-control-allow-origin" "*"
  if r.method = "HEAD" then response.silenced else response

end Office

end LanCensus.Service
