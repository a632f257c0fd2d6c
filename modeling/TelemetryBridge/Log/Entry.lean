import TelemetryBridge.Failure
import TelemetryBridge.Telemetry.Record

/-!
# Log entries

The bridge reports what it does as structured log entries: a level, a message, and named
fields. A field holds a text, an integer, a real number, a flag, a duration, a failure or a
whole record. Entries are values, so that the operations of the library return the entries
they write together with their results, in the order they were written.

Main definitions: `Log.Level`, `Log.Datum`, `Log.Entry`.
-/

namespace TelemetryBridge

namespace Log

/-- How much an entry matters. -/
inductive Level where
  | debug
  | info
  | warn
  | error
  deriving Repr, DecidableEq, Inhabited

/-- The name of a level. -/
def Level.name : Level → String
  | .debug => "debug"
  | .info => "info"
  | .warn => "warn"
  | .error => "error"

/-- The value of one field of an entry. -/
inductive Datum where
  | text (s : Bytes)
  | int (n : Int)
  | real (x : Float)
  | flag (b : Bool)
  /-- A duration in nanoseconds. -/
  | duration (ns : Int)
  | failure (f : Failure)
  | record (r : Record)
  deriving Inhabited

/-- One log entry. -/
structure Entry where
  level : Level
  message : String
  fields : List (String × Datum) := []
  deriving Inhabited

/-- A text field given as a string. -/
def Datum.str (s : String) : Datum := .text (Bytes.ofString s)

/-- An entry at a level with fields. -/
def entry (level : Level) (message : String) (fields : List (String × Datum) := []) : Entry :=
  { level, message, fields }

/-- An entry with a failure in its `error` field, if there is one. -/
def withFailure (level : Level) (message : String) (f : Option Failure)
    (fields : List (String × Datum) := []) : Entry :=
  { level, message, fields := (f.map fun f => ("error", Datum.failure f)).toList ++ fields }

end Log

end TelemetryBridge
