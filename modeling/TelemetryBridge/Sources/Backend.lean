import TelemetryBridge.Sources.Snapshot
import TelemetryBridge.Sources.Backup
import TelemetryBridge.Sources.Live

/-!
# Sources of controller data

The bridge reads controller data from one of three sources: the live store (a key-value
server), the snapshot file and the backup database. All three read the *host*: the working
directory and the key-value server. Besides them there is the scripted source, which replays
a list of prepared readings (the last one again and again) and answers probing and closing as
prepared; it stands in for a real source where one is not at hand.

A source has a kind, which names it in logs; every kind but `live` is stale. Probing says
whether the source can be used at all, fetching gives a reading, closing releases the source.
Probing and fetching are told whether the time allowed for them has already run out; the
sources that talk to a server then fail at once.

Main definitions: `Host`, `Backend`, `Backend.probe`, `Backend.fetch`, `Backend.close`.
-/

namespace TelemetryBridge

/-- What sources read: the working directory and the key-value server. -/
structure Host where
  disk : Disk
  kv : KeyValue.Server := {}
  deriving Inhabited

/-- A reading prepared for the scripted source: a record, alarms that may be absent, and a
failure. -/
structure Prepared where
  record : Record
  alarms : Option Alarms := none
  failure : Option Failure := none
  deriving Inhabited

/-- A source of controller data. -/
inductive Backend where
  | live (s : LiveStore)
  | snapshot (s : SnapshotFile)
  | backup (s : BackupStore)
  /-- A source that replays prepared readings under a kind of its own. -/
  | scripted (kind : String) (probe : Option Failure) (closeFailure : Option Failure)
      (readings : List Prepared)
  deriving Inhabited

/-- The record with all fields zero and an empty identifier. -/
def Record.zero : Record :=
  { gmid := [], seq := 0, pressure := 0, current := 0, temp := 0, runcycles := 0, faults := 0,
    mode := 0 }

/-- Whether readings of a kind may lag the controller: all but the live store's may. -/
def kindIsStale (kind : String) : Bool := kind != "live"

namespace Backend

/-- The kind that names the source. -/
def kind : Backend → String
  | .live _ => "live"
  | .snapshot _ => "snapshot"
  | .backup _ => "backup"
  | .scripted k _ _ _ => k

/-- Checks that the source can be used. -/
def probe (b : Backend) (h : Host) (expired : Bool) : Option Failure :=
  match b with
  | .live s => s.probe h.kv expired
  | .snapshot s => s.probe h.disk
  | .backup s => s.probe h.disk
  | .scripted _ p _ _ => p

/-- Reads the source; the scripted source moves on to its next prepared reading, if there is
one after the current. -/
def fetch (b : Backend) (h : Host) (expired : Bool) : Backend × Reading :=
  match b with
  | .live s => (b, s.fetch h.kv expired)
  | .snapshot s => (b, s.fetch h.disk)
  | .backup s => (b, s.fetch h.disk expired)
  | .scripted k p c rs =>
    match rs with
    | [] => (b, ⟨Record.zero, none, none⟩)
    | [r] => (b, ⟨r.record, r.alarms, r.failure⟩)
    | r :: rest => (.scripted k p c rest, ⟨r.record, r.alarms, r.failure⟩)

/-- Releases the source. -/
def close : Backend → Option Failure
  | .scripted _ _ c _ => c
  | _ => none

end Backend

end TelemetryBridge
