import TelemetryBridge.Text.Bytes

/-!
# Controller records

A record is one reading of the controller: its identifier (`gmid`), a sequence number, three
measurements (pressure, current, temperature) and three counters (run cycles, fault code,
operating mode). The integers are signed 64-bit values; the readers of the library only ever
produce values in that range.

When a store has nothing usable, the bridge works with the *default record*: the configured
device identifier (or `CSX-9000` when none is configured) and zeros everywhere else.

A controller is *active* when it reports a fault or runs in a positive mode; with event
monitoring on, only active readings are transmitted.

Main definitions: `Record`, `Record.default`, `Record.active`.
-/

namespace TelemetryBridge

/-- One reading of the controller. -/
structure Record where
  gmid : Bytes
  seq : Int
  pressure : Float
  current : Float
  temp : Float
  runcycles : Int
  faults : Int
  mode : Int
  deriving Inhabited

namespace Record

/-- The identifier used when neither a store nor the configuration gives one. -/
def fallbackId : Bytes := Bytes.ofString "CSX-9000"

/-- The record a failed read falls back to: the device identifier (or `fallbackId` when it is
empty) and zeros. -/
def default (deviceId : Bytes) : Record :=
  { gmid := if deviceId.isEmpty then fallbackId else deviceId
    seq := 0, pressure := 0, current := 0, temp := 0, runcycles := 0, faults := 0, mode := 0 }

/-- A controller is active when it reports a fault or runs in a positive mode. -/
def active (r : Record) : Bool := r.faults != 0 || r.mode > 0

end Record

end TelemetryBridge
