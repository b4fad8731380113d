/-
# LanCensus.Sweep.Options -- the settings that drive a sweep

Which last octets a sweep covers, how many probes may run at once, how long it pauses between
batches of probes, and whether sweeps repeat on a timer. A sweep works with the options as they
are when it begins.

`Options.check` says which options describe a sweep that can run, and names the first setting
that does not.
-/

import LanCensus.Json.Record
import LanCensus.Time.Instant

namespace LanCensus.Sweep

/-- The longest interval between repeated sweeps, one week. -/
def longestInterval : Nat := 10080

/-- **`Options`** — the settings of a sweep. -/
structure Options where
  /-- Minutes between repeated sweeps. -/
  intervalMinutes : UInt64
  /-- How many probes may run at once. -/
  maxProbes : UInt64
  /-- How long a probe waits for an answer. -/
  pingTimeoutMillis : UInt64
  /-- The first host octet. -/
  startOctet : UInt8
  /-- The last host octet. -/
  endOctet : UInt8
  /-- The pause after each batch of probes. -/
  throttleMillis : UInt64
  /-- The number of probes in a batch. -/
  batchSize : UInt64
  /-- Whether sweeps repeat on a timer. -/
  continuous : Bool
  deriving DecidableEq, Repr

namespace Options

/-- The options of a census that nobody has configured. -/
def default : Options where
  intervalMinutes := 5
  maxProbes := 20
  pingTimeoutMillis := 2000
  startOctet := 1
  endOctet := 254
  throttleMillis := 50
  batchSize := 10
  continuous := true

instance : Inhabited Options := ⟨default⟩

/-- The seconds between repeated sweeps, at most what 64 bits hold. -/
def intervalSeconds (o : Options) : Nat := min (o.intervalMinutes.toNat * 60) (Text.wordBound - 1)

/-- The time between repeated sweeps. -/
def interval (o : Options) : Span := .ofSeconds o.intervalSeconds

/-- The pause after each batch. -/
def throttle (o : Options) : Span := .ofMillis o.throttleMillis.toNat

/-- The host octets of a sweep, ascending. -/
def octets (o : Options) : List UInt8 :=
  (List.range (o.endOctet.toNat + 1 - o.startOctet.toNat)).map fun i =>
    (o.startOctet.toNat + i).toUInt8

/-- The number of addresses swept in each subnet. -/
def octetCount (o : Options) : Nat := o.endOctet.toNat + 1 - o.startOctet.toNat

end Options

/-! ## Options that describe a sweep -/

/-- **`OptionsError`** — what is wrong with options. -/
inductive OptionsError where
  | startOctet (given : UInt8)
  | endOctet (given : UInt8)
  | emptyRange (start stop : UInt8)
  | noConcurrency
  | noThrottleBatch
  | noInterval
  | intervalTooLong (given : UInt64)
  deriving DecidableEq, Repr

/-- The name of an options error. -/
def OptionsError.name : OptionsError → String
  | .startOctet _ => "StartOctet"
  | .endOctet _ => "EndOctet"
  | .emptyRange .. => "EmptyRange"
  | .noConcurrency => "NoConcurrency"
  | .noThrottleBatch => "NoThrottleBatch"
  | .noInterval => "NoInterval"
  | .intervalTooLong _ => "IntervalTooLong"

/-- The wording of an options error. -/
def OptionsError.message : OptionsError → String
  | .startOctet n => s!"start octet must be between 1 and 254, got {n}"
  | .endOctet n => s!"end octet must be between 1 and 254, got {n}"
  | .emptyRange a b => s!"start octet {a} is greater than end octet {b}"
  | .noConcurrency => "max concurrent connections must be at least 1"
  | .noThrottleBatch => "devices before throttle must be at least 1"
  | .noInterval => "scan interval must be at least one minute in continuous mode"
  | .intervalTooLong n => s!"scan interval must be at most {longestInterval} minutes, got {n}"

namespace Options

/-- **`check o`** — the first thing that is wrong with the options, or nothing. -/
def check (o : Options) : Except OptionsError Unit :=
  if o.startOctet = 0 ∨ o.startOctet = 255 then .error (.startOctet o.startOctet)
  else if o.endOctet = 0 ∨ o.endOctet = 255 then .error (.endOctet o.endOctet)
  else if o.endOctet < o.startOctet then .error (.emptyRange o.startOctet o.endOctet)
  else if o.maxProbes = 0 then .error .noConcurrency
  else if o.batchSize = 0 then .error .noThrottleBatch
  else if o.continuous ∧ o.intervalMinutes = 0 then .error .noInterval
  else if longestInterval < o.intervalMinutes.toNat then
    .error (.intervalTooLong o.intervalMinutes)
  else .ok ()

/-- Options that describe a sweep. -/
def IsValid (o : Options) : Prop := o.check = .ok ()

instance (o : Options) : Decidable o.IsValid :=
  match h : o.check with
  | .ok () => isTrue h
  | .error _ => isFalse fun h' => by
      rw [IsValid, h] at h'
      cases h'

/-! ## JSON -/

/-- The options in JSON. -/
def toJson (o : Options) : Json :=
  .object [
    ("scan_interval_minutes", .ofNat o.intervalMinutes.toNat),
    ("max_concurrent_connections", .ofNat o.maxProbes.toNat),
    ("ping_timeout_ms", .ofNat o.pingTimeoutMillis.toNat),
    ("start_octet", .ofNat o.startOctet.toNat),
    ("end_octet", .ofNat o.endOctet.toNat),
    ("network_throttle_delay_ms", .ofNat o.throttleMillis.toNat),
    ("devices_before_throttle", .ofNat o.batchSize.toNat),
    ("enable_continuous_scanning", .bool o.continuous)]

/-- **`Draft`** — options that are being read, and the names of those already given. -/
structure Draft where
  options : Options
  given : List String

/-- A setting of 64 bits. -/
def wordField (name : String) (put : Options → UInt64 → Options) : Json.Field Draft where
  name := name
  required := false
  given r := r.given.contains name
  read r s := do
    let (n, s) ← Json.readNat Text.wordBound s
    return (⟨put r.options n.toUInt64, name :: r.given⟩, s)

/-- A setting that is an octet. -/
def octetField (name : String) (put : Options → UInt8 → Options) : Json.Field Draft where
  name := name
  required := false
  given r := r.given.contains name
  read r s := do
    let (n, s) ← Json.readNat 256 s
    return (⟨put r.options n.toUInt8, name :: r.given⟩, s)

/-- A setting that is on or off. -/
def flagField (name : String) (put : Options → Bool → Options) : Json.Field Draft where
  name := name
  required := false
  given r := r.given.contains name
  read r s := do
    let (b, s) ← Json.readBool s
    return (⟨put r.options b, name :: r.given⟩, s)

/-- The settings in their order. -/
def fields : List (Json.Field Draft) := [
  wordField "scan_interval_minutes" fun o n => { o with intervalMinutes := n },
  wordField "max_concurrent_connections" fun o n => { o with maxProbes := n },
  wordField "ping_timeout_ms" fun o n => { o with pingTimeoutMillis := n },
  octetField "start_octet" fun o n => { o with startOctet := n },
  octetField "end_octet" fun o n => { o with endOctet := n },
  wordField "network_throttle_delay_ms" fun o n => { o with throttleMillis := n },
  wordField "devices_before_throttle" fun o n => { o with batchSize := n },
  flagField "enable_continuous_scanning" fun o b => { o with continuous := b }]

/-- Reads options; a setting that is not given has its default. -/
def reader : Json.Reader Options :=
  Json.readRecord fields ⟨default, []⟩ fun r => some r.options

/-- The options that a text holds. -/
def ofText (s : String) : Except Json.Fault Options := Json.readWhole reader s

end Options

end LanCensus.Sweep
