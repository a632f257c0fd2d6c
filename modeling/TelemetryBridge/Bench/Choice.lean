import TelemetryBridge.Bench.Stores
import TelemetryBridge.Sources.Resolver

/-!
# Bench operation on the choice of source

`resolver` offers sources to the resolver, each real or scripted, and reads through the one it
chooses. A scripted source is given by its kind, its probe failure, its close failure and its
prepared readings; a failure is given as a text, or as an object whose message is marked as
meaning that the source holds no data.
-/

namespace TelemetryBridge

namespace Bench

open Json

/-- Alarms given as an object in a request; anything else is absent alarms. -/
def alarmsOf? : Option Value → Option Alarms
  | some (.object ms) =>
    match (Value.object ms).settle with
    | some (.object ms) => some { members := ms }
    | _ => none
  | _ => none

/-- A prepared reading of a scripted source. -/
def preparedOf (v : Value) : Prepared :=
  { record := recordOf ((v.given? "record").getD (.obj []))
    alarms := alarmsOf? (v.given? "alarms")
    failure := failureOf? (v.given? "error") }

/-- The source a specification gives for a role: scripted when it says so, else real. -/
def backendOf (role : Role) (spec : Value) : Backend :=
  let roleName := match role with
    | .live => "live"
    | .snapshot => "snapshot"
    | .backup => "backup"
  if boolField spec "fake" false then
    .scripted (textOf (textField spec "kind" roleName)) (failureOf? (spec.given? "probe"))
      (failureOf? (spec.given? "close_error")) ((listField spec "fetch").map preparedOf)
  else
    let defaultId := textField spec "default_id" ""
    match role with
    | .live =>
      .live { contKey := textField spec "cont_key" "cont",
              alarmsKey := textField spec "alarms_key" "alarms",
              payloadKey := textField spec "payload_key" "payload", defaultId }
    | .snapshot => .snapshot { path := textField spec "path" "cont2_data.json", defaultId }
    | .backup =>
      .backup { path := textField spec "path" "rms.db", table := textField spec "table" "controller",
                defaultId }

/-- The host a request sets up for its sources: its files, the statements of a real backup
specification run on its database, and the key-value server, up unless a real live
specification says otherwise. -/
def hostOf (req : Value) (live backup : Option Value) : Host :=
  let disk := diskOf req
  let disk := match backup with
    | some spec =>
      if boolField spec "fake" false then disk
      else
        let path := textField spec "path" "rms.db"
        (disk.execute path ((listField spec "sql").filterMap fun s => s.str?.map textOf)).1
    | none => disk
  let up := match live with
    | some spec => boolField spec "up" true
    | none => true
  { disk, kv := serverOf req up }

/-- A specification given under a key, absent when missing or `null`. -/
def specOf? (req : Value) (key : String) : Option Value :=
  match req.given? key with
  | some v@(.object _) => some v
  | _ => none

/-- A degradation in an answer. -/
def degradationValue (d : Degradation) : Value :=
  .obj [("kind", .text d.kind), ("error", failureValue (some d.failure))]

/-- `resolver`: choose a source and read through it. -/
def resolverOp (req : Value) : Value :=
  let liveSpec := specOf? req "live"
  let backupSpec := specOf? req "backup"
  let offer : Offer :=
    { live := liveSpec.map (backendOf .live)
      snapshot := backendOf .snapshot ((specOf? req "snapshot").getD (.obj []))
      backup := backupSpec.map (backendOf .backup) }
  let host := hostOf req liveSpec backupSpec
  let hook := boolField req "hook" true
  let (r, closed, logs) := Resolver.start offer (textField req "default_id" "") host false
  let (_, _, answers) := (stepsOf req "fetch").foldl (fun (h, r, acc) step =>
    match stepName step with
    | "fetch" =>
      let (r, f) := r.fetch h false
      let a : Value := .obj [("record", recordValue f.record), ("alarms", alarmsValue (some f.alarms)),
        ("degraded", .array (if hook then f.degradations.map degradationValue else [])),
        ("logs", logsValue f.logs)]
      (h, r, a :: acc)
    | "close" => (h, r, Value.obj [("error", failureValue r.close)] :: acc)
    | _ =>
      let (h, a) := applyStep h step
      (h, r, a :: acc)) (host, r, [])
  .obj [("selected", .text r.kind), ("backend_kind", .text r.kind),
    ("stale", .bool (kindIsStale r.kind)),
    ("closed", if closed.isEmpty then .null else .array (closed.map .text)),
    ("logs", logsValue logs), ("steps", .array answers.reverse)]

end Bench

end TelemetryBridge
