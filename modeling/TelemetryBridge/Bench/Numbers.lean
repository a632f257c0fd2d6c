import TelemetryBridge.Bench.Request
import TelemetryBridge.Bench.Answer
import TelemetryBridge.Decimal.Places
import TelemetryBridge.Schedule.Outcome
import TelemetryBridge.Serial.State

/-!
# Bench operations on numbers, names and records

The operations that need no store: two-place rounding and the wire text of numbers, the names
of outcome and line-state numbers, the default record and the activity test.
-/

namespace TelemetryBridge

namespace Bench

open Json

/-- `round2`: a number rounded to two places, and its wire text. -/
def roundOp (req : Value) : Value :=
  let x := roundPlaces2 (floatField req "value" 0)
  .obj [("value", floatValue x), ("json", .string (wireNumber x))]

/-- `marshal_float`: the wire text of a number, alone and as a document. -/
def wireOp (req : Value) : Value :=
  let t := wireNumber (floatField req "value" 0)
  .obj [("json", .string t), ("via_json", .string t)]

/-- `enum_string`: the names of an outcome number and of a line-state number. -/
def namesOp (req : Value) : Value :=
  let n := intField req "value" 0
  .obj [("outcome", .text (Outcome.describe n)), ("state", .text (LineState.describe n))]

/-- `default_record`: the default record of a device identifier. -/
def defaultRecordOp (req : Value) : Value :=
  .obj [("record", recordValue (Record.default (bytesField req "device_id" [])))]

/-- `active`: whether a record shows an active controller. -/
def activeOp (req : Value) : Value :=
  let r := recordOf ((req.given? "record").getD (.object []))
  .obj [("active", .bool r.active)]

end Bench

end TelemetryBridge
