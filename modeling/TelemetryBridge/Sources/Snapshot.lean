import TelemetryBridge.Telemetry.Document
import TelemetryBridge.Sources.Reading
import TelemetryBridge.Files.Disk

/-!
# The snapshot file

The snapshot file is the bridge's stale source: a controller document kept on disk. It has no
alarms, and closing it does nothing.

Probing asks whether the file exists: a missing file means the source holds no data, any other
failure of the status query is reported as it is. Fetching reads the file over the default
record: a missing file again means no data, and a document that cannot be read gives the
default record with the reason.

Main definitions: `SnapshotFile`, `SnapshotFile.probe`, `SnapshotFile.fetch`.
-/

namespace TelemetryBridge

/-- A snapshot file and the identifier of its default record. -/
structure SnapshotFile where
  path : Bytes
  defaultId : Bytes := []
  deriving Inhabited

namespace SnapshotFile

/-- The context of the snapshot's failures. -/
def tag (s : SnapshotFile) (what : String) : Bytes := Bytes.ofString what ++ s.path

/-- Checks that the snapshot file exists. -/
def probe (s : SnapshotFile) (disk : Disk) : Option Failure :=
  match disk.stat s.path with
  | .ok _ => none
  | .error f =>
    if f.kind == .notExist then some (.context (s.tag "snapshot ") .noData)
    else some (.context (s.tag "stat snapshot ") f)

/-- Reads the snapshot over the default record. -/
def fetch (s : SnapshotFile) (disk : Disk) : Reading :=
  let base := Record.default s.defaultId
  match disk.readFile s.path with
  | .error f =>
    if f.kind == .notExist then ⟨base, some .empty, some (.context (s.tag "snapshot ") .noData)⟩
    else ⟨base, some .empty, some (.context (s.tag "read snapshot ") f)⟩
  | .ok doc =>
    match Record.read doc base with
    | .ok r => ⟨r, some .empty, none⟩
    | .error e => ⟨base, some .empty, some (.context (s.tag "snapshot ") e.failure)⟩

end SnapshotFile

end TelemetryBridge
