import TelemetryBridge.Json.Value
import TelemetryBridge.Decimal.Layout
import TelemetryBridge.Text.Utf8
import TelemetryBridge.Telemetry.Record
import TelemetryBridge.Log.Entry

/-!
# Writing answers of the test bench

Answers are JSON objects. Their conventions:

* a finite double is a JSON number in document text (`100`, `0.07`, `1e+22`); not-a-number,
  the infinities and negative zero, which JSON numbers cannot carry faithfully, are the strings
  `"NaN"`, `"+Inf"`, `"-Inf"` and `"-0"`;
* a byte string that is valid UTF-8 is a JSON string, any other is `{"hex": …}` with its bytes
  in lowercase hexadecimal;
* a record is an object of its eight fields;
* a failure is `null` or `{"kind": …, "message": …}`;
* a log entry is an object of its level, message and fields, as a log reader sees it: integers
  have become doubles, durations are milliseconds, and a record holding a number that is not
  finite could not be written and is replaced by the text saying so.
-/

namespace TelemetryBridge

namespace Bench

open Json

/-- A double in an answer. -/
def floatValue (x : Float) : Value :=
  match Binary.ofFloat x with
  | .nan => .text "NaN"
  | .inf false => .text "+Inf"
  | .inf true => .text "-Inf"
  | .finite true 0 => .text "-0"
  | .finite neg mag => .number (Binary.documentText neg mag)

/-- A byte string in an answer. -/
def bytesValue (s : Bytes) : Value :=
  if Utf8.isValid s then .string s else .obj [("hex", .string (Bytes.toHex s))]

/-- An optional byte string in an answer (`null` when absent). -/
def optBytesValue : Option Bytes → Value
  | some s => bytesValue s
  | none => .null

/-- A record in an answer. -/
def recordValue (r : Record) : Value :=
  .obj [("gmid", bytesValue r.gmid), ("seq", .int r.seq), ("pressure", floatValue r.pressure),
    ("current", floatValue r.current), ("temp", floatValue r.temp),
    ("runcycles", .int r.runcycles), ("faults", .int r.faults), ("mode", .int r.mode)]

/-- The name of a failure class in answers. -/
def kindName : Failure.Kind → String
  | .noData => "no_data"
  | .openFailed => "open"
  | .portClosed => "port_closed"
  | .notExist => "not_exist"
  | .endOfInput => "eof"
  | .other => "error"

/-- A failure in an answer. -/
def failureValue : Option Failure → Value
  | none => .null
  | some f => .obj [("kind", .text (kindName f.kind)), ("message", bytesValue f.message)]

/-- An integer as a log reader sees it: the nearest double. -/
def intAsReal (n : Int) : Value := floatValue (Binary.ofInt n).toFloat

/-- The text that replaces a record holding a number that is not finite. -/
def unwritable (x : Float) : Option String :=
  match Binary.ofFloat x with
  | .nan => some "NaN"
  | .inf false => some "+Inf"
  | .inf true => some "-Inf"
  | .finite _ _ => none

/-- A record as a log reader sees it. -/
def loggedRecord (r : Record) : Value :=
  match unwritable r.pressure <|> unwritable r.current <|> unwritable r.temp with
  | some w => .text ("marshaling error: json: unsupported value: " ++ w)
  | none =>
    .obj [("gmid", .string (Utf8.repair r.gmid)), ("seq", intAsReal r.seq),
      ("pressure", floatValue r.pressure), ("current", floatValue r.current),
      ("temp", floatValue r.temp), ("runcycles", intAsReal r.runcycles),
      ("faults", intAsReal r.faults), ("mode", intAsReal r.mode)]

/-- A log field as a log reader sees it. -/
def datumValue : Log.Datum → Value
  | .text s => .string (Utf8.repair s)
  | .int n => intAsReal n
  | .real x => floatValue x
  | .flag b => .bool b
  | .duration ns => floatValue (Float.ofInt ns / 1000000)
  | .failure f => .string (Utf8.repair f.message)
  | .record r => loggedRecord r

/-- A log entry in an answer. -/
def entryValue (e : Log.Entry) : Value :=
  .obj ([("level", .text e.level.name), ("message", .text e.message)] ++
    e.fields.map fun (k, d) => (k, datumValue d))

/-- Log entries in an answer. -/
def logsValue (es : List Log.Entry) : Value := .array (es.map entryValue)

end Bench

end TelemetryBridge
