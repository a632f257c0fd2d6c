import TelemetryBridge.Telemetry.Record
import TelemetryBridge.Telemetry.Alarms
import TelemetryBridge.Failure

/-!
# Readings

A source of controller data (the live store, the snapshot file, the backup database) answers a
read with a record, the alarms it holds, and the failure when the read failed. A failed read
still carries a record: the default one of the source, so that callers always have a record to
work with.

Main definition: `Reading`.
-/

namespace TelemetryBridge

/-- What a source gives for one read: the record, the alarms, and the failure if the read
failed (the record is then the default one). -/
structure Reading where
  record : Record
  alarms : Option Alarms
  failure : Option Failure := none
  deriving Inhabited

end TelemetryBridge
