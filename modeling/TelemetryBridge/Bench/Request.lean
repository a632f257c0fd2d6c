import TelemetryBridge.Json.Value
import TelemetryBridge.Decimal.Reader
import TelemetryBridge.Text.Base64
import TelemetryBridge.Telemetry.Record
import TelemetryBridge.Failure

/-!
# Reading requests of the test bench

The bench drives the bridge's components from one JSON object per request. This module reads the
field conventions of those objects:

* a float is a JSON number or a string of number text (`"NaN"`, `"-Inf"`, `"0x1.8p1"`);
* an integer is a JSON integer or a decimal string, in the signed 64-bit range;
* a byte string field `x` may be given as `x_b64` in base64 instead;
* a record is an object whose fields all default to zero or empty;
* a failure is `null` (none), a text, or an object of a message and whether the failure means
  that a store holds no data.

An absent or `null` field takes its default.
-/

namespace TelemetryBridge

namespace Bench

open Json

/-- The signed 64-bit range. -/
def inInt64 (n : Int) : Bool := -(2 ^ 63 : Int) ≤ n && n < 2 ^ 63

/-- Reads decimal integer text: an optional minus sign and at least one digit. -/
def intText? (t : Bytes) : Option Int :=
  let (neg, ds) := match t with
    | 45 :: r => (true, r)
    | r => (false, r)
  if ds.isEmpty || !ds.all Bytes.isDigit then none
  else
    let n : Int := Bytes.digitsValue ds
    let n := if neg then -n else n
    if inInt64 n then some n else none

/-- An integer field value. -/
def intOf? : Value → Option Int
  | .number t => intText? t
  | .string s => intText? s
  | _ => none

/-- A float field value. -/
def floatOf? : Value → Option Float
  | .number t => (readFloat t).toOption
  | .string s => (readFloat s).toOption
  | _ => none

/-- A boolean field value. -/
def boolOf? : Value → Option Bool
  | .bool b => some b
  | _ => none

/-- An integer field, with a default. -/
def intField (v : Value) (key : String) (dflt : Int) : Int :=
  ((v.given? key).bind intOf?).getD dflt

/-- A float field, with a default. -/
def floatField (v : Value) (key : String) (dflt : Float) : Float :=
  ((v.given? key).bind floatOf?).getD dflt

/-- A boolean field, with a default. -/
def boolField (v : Value) (key : String) (dflt : Bool) : Bool :=
  ((v.given? key).bind boolOf?).getD dflt

/-- A byte string field given as text or, under the key with `_b64` added, as base64. -/
def bytes? (v : Value) (key : String) : Option Bytes :=
  match (v.given? (key ++ "_b64")).bind Value.str? with
  | some b => Base64.decode? b
  | none => (v.given? key).bind Value.str?

/-- A byte string field with a default. -/
def bytesField (v : Value) (key : String) (dflt : Bytes) : Bytes := (bytes? v key).getD dflt

/-- A text field with a default. -/
def textField (v : Value) (key : String) (dflt : String) : Bytes :=
  bytesField v key (Bytes.ofString dflt)

/-- A record given field by field; absent fields are zero or empty. -/
def recordOf (v : Value) : Record :=
  { gmid := bytesField v "gmid" []
    seq := intField v "seq" 0
    pressure := floatField v "pressure" 0
    current := floatField v "current" 0
    temp := floatField v "temp" 0
    runcycles := intField v "runcycles" 0
    faults := intField v "faults" 0
    mode := intField v "mode" 0 }

/-- The list under a key (empty when absent). -/
def listField (v : Value) (key : String) : List Value :=
  match v.given? key with
  | some (.array xs) => xs
  | _ => []

/-- The object members under a key (empty when absent). -/
def membersField (v : Value) (key : String) : List (Bytes × Value) :=
  match v.given? key with
  | some (.object ms) => ms
  | _ => []

/-- A failure given in a request: `null`, a text, or an object of `message` and `no_data`. -/
def failureOf? : Option Value → Option Failure
  | some (.string s) => some (.text s)
  | some v@(.object _) =>
    let m := textField v "message" ""
    if boolField v "no_data" false then some (.context m .noData) else some (.text m)
  | _ => none

end Bench

end TelemetryBridge
