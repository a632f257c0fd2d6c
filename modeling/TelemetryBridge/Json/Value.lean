import TelemetryBridge.Text.Bytes

/-!
# JSON values

A JSON value as the bridge reads and writes it. Strings are byte strings (the decoded text of a
string literal), numbers keep the literal text they were written with, so that a reader can
decide later whether `150.0` is read as an integer or a double, and object members keep their
order and their duplicates: what a later member overrides is decided by whoever reads the
object.

Main definitions: `Json.Value` and its look-ups `Value.get?` (last member of a key) and
`Value.field?`.
-/

namespace TelemetryBridge

namespace Json

/-- A JSON value. -/
inductive Value where
  | null
  | bool (b : Bool)
  | number (text : Bytes)
  | string (s : Bytes)
  | array (items : List Value)
  | object (members : List (Bytes × Value))
  deriving Repr, Inhabited

namespace Value

/-- The value of the last member named `key` of an object (`none` otherwise). -/
def get? (v : Value) (key : Bytes) : Option Value :=
  match v with
  | .object ms => (ms.reverse.find? (·.1 == key)).map (·.2)
  | _ => none

/-- `get?` with a key given as text. -/
def field? (v : Value) (key : String) : Option Value := v.get? (Bytes.ofString key)

/-- A member that is present and not `null`. -/
def given? (v : Value) (key : String) : Option Value :=
  match v.field? key with
  | some .null => none
  | other => other

/-- The items of an array (empty for anything else). -/
def items : Value → List Value
  | .array xs => xs
  | _ => []

/-- The members of an object (empty for anything else). -/
def members : Value → List (Bytes × Value)
  | .object ms => ms
  | _ => []

/-- A string value's bytes. -/
def str? : Value → Option Bytes
  | .string s => some s
  | _ => none

/-- A boolean value. -/
def bool? : Value → Option Bool
  | .bool b => some b
  | _ => none

/-- A string value made from text. -/
def text (s : String) : Value := .string (Bytes.ofString s)

/-- An object with members given by text keys. -/
def obj (ms : List (String × Value)) : Value := .object (ms.map fun (k, v) => (Bytes.ofString k, v))

/-- A number value written as the decimal text of an integer. -/
def int (n : Int) : Value := .number (Bytes.ofInt n)

end Value

end Json

end TelemetryBridge
