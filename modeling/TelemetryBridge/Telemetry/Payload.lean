import TelemetryBridge.Telemetry.Record
import TelemetryBridge.Decimal.Places
import TelemetryBridge.Decimal.Layout
import TelemetryBridge.Json.Reader
import TelemetryBridge.Json.Writer

/-!
# Payloads

A payload is what the bridge publishes for one reading: the record's identifier and counters,
its three measurements rounded to two decimal places, and the site profile, a JSON document
carried along verbatim.

The document of a payload is a JSON object with the keys `id`, `s`, `p`, `r`, `f`, `m`, `t`, `c`
and `pr`, in that order. Numbers are written in wire form (positional, always with a point);
the identifier is a string literal safe to embed in HTML (`<`, `>` and `&` escaped); the profile
is written compactly with the same escapes, or `null` when there is none. A profile that is not
one JSON value has no document, so writing the payload fails.

Main definitions: `Payload`, `Payload.ofRecord`, `Payload.document?`.
-/

namespace TelemetryBridge

/-- What the bridge publishes for one reading. -/
structure Payload where
  id : Bytes
  seq : Int
  pressure : Float
  runcycles : Int
  faults : Int
  mode : Int
  temp : Float
  current : Float
  /-- The site profile as JSON text; `none` when the payload carries none. -/
  profile : Option Bytes
  deriving Inhabited

namespace Payload

/-- The payload of a record under a profile: the measurements rounded to two places. -/
def ofRecord (profile : Bytes) (r : Record) : Payload :=
  { id := r.gmid, seq := r.seq, pressure := roundPlaces2 r.pressure, runcycles := r.runcycles,
    faults := r.faults, mode := r.mode, temp := roundPlaces2 r.temp,
    current := roundPlaces2 r.current, profile := some profile }

/-- The profile as it appears inside the document; `none` when it is not one JSON value. -/
def profileText? : Option Bytes → Option Bytes
  | none => some (Bytes.ofString "null")
  | some raw => (Json.compact raw).map Json.escapeEmbedded

/-- One member of the document after the first, with its leading comma. -/
def member (key : String) (value : Bytes) : Bytes :=
  Bytes.ofString (",\"" ++ key ++ "\":") ++ value

/-- The JSON document of a payload; `none` when its profile is not one JSON value. -/
def document? (p : Payload) : Option Bytes :=
  (profileText? p.profile).map fun pr =>
    Bytes.ofString "\x7b\"id\":" ++ Json.quote true p.id ++
      member "s" (Bytes.ofInt p.seq) ++ member "p" (wireNumber p.pressure) ++
      member "r" (Bytes.ofInt p.runcycles) ++ member "f" (Bytes.ofInt p.faults) ++
      member "m" (Bytes.ofInt p.mode) ++ member "t" (wireNumber p.temp) ++
      member "c" (wireNumber p.current) ++ member "pr" pr ++ [125]

end Payload

end TelemetryBridge
