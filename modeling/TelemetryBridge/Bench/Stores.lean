import TelemetryBridge.Bench.Setup
import TelemetryBridge.Bench.Answer
import TelemetryBridge.Sources.Backend
import TelemetryBridge.Bench.Publish
import TelemetryBridge.Device.Identity

/-!
# Bench operations on files

`snapshot` probes and reads a snapshot file; `backup` fills a database file and reads its
latest row; `live` reads the live store and puts payloads there; `identity` loads a device identity.
The last three run a list of steps, between which environment steps change the files and the
key-value server.
-/

namespace TelemetryBridge

namespace Bench

open Json

/-- Alarms in an answer: their document text, or `null` when there are none. -/
def alarmsValue : Option Alarms → Value
  | some a => bytesValue a.text
  | none => .null

/-- `snapshot`: probe and read a snapshot file. -/
def snapshotOp (req : Value) : Value :=
  let disk := diskOf req
  let s : SnapshotFile :=
    { path := textField req "path" "cont2_data.json", defaultId := textField req "default_id" "" }
  let r := s.fetch disk
  .obj [("record", recordValue r.record), ("alarms", alarmsValue r.alarms),
    ("error", failureValue r.failure), ("probe", failureValue (s.probe disk)),
    ("kind", .text "snapshot"), ("stale", .bool true), ("close", .null)]

/-- The text of a byte string. -/
def textOf (b : Bytes) : String := String.fromUTF8! ⟨(Utf8.repair b).toArray⟩

/-- The name of a step's operation. -/
def stepName (step : Value) : String :=
  match (step.field? "op").bind Value.str? with
  | some op => textOf op
  | none => ""

/-- Applies an environment step: the host after it and the step's answer. Steps that change
nothing answer an empty object. -/
def applyStep (w : Host) (step : Value) : Host × Value :=
  let path := textField step "path" ""
  let key := textField step "key" ""
  match stepName step with
  | "write" => ({ w with disk := w.disk.write path (bytesField step "content" []) }, .obj [])
  | "remove" => ({ w with disk := w.disk.remove path }, .obj [])
  | "mkdir" => ({ w with disk := w.disk.makeDirs path }, .obj [])
  | "redis_set" => ({ w with kv := w.kv.put key (.text (bytesField step "value" [])) }, .obj [])
  | "redis_del" => ({ w with kv := w.kv.remove key }, .obj [])
  | "redis_hset" =>
    ({ w with kv := w.kv.hashSet key (textField step "field" "f") (textField step "value" "v") },
      .obj [])
  | "sql" =>
    let (disk, errs) := w.disk.execute (textField step "path" "rms.db")
      [textOf (textField step "stmt" "")]
    let err := errs.headD none
    ({ w with disk }, .obj [("sql_error", failureValue (err.map Failure.say))])
  | _ => (w, .obj [])

/-- The steps of a request, or the given default when it lists none. -/
def stepsOf (req : Value) (dflt : String) : List Value :=
  match req.given? "steps" with
  | some (.array xs) => xs
  | _ => [.obj [("op", .text dflt)]]

/-- Runs the steps of a request: a step the operation knows is answered by `serve`, any other
by the world. -/
def runSteps (w : Host) (steps : List Value) (serve : Host → Value → Option (Host × Value)) :
    List Value :=
  (steps.foldl (fun (w, acc) step =>
    match serve w step with
    | some (w, a) => (w, a :: acc)
    | none =>
      let (w, a) := applyStep w step
      (w, a :: acc)) (w, [])).2.reverse

/-- `backup`: fill a database file by statements, then probe and read it. -/
def backupOp (req : Value) : Value :=
  let path := textField req "path" "rms.db"
  let disk := ((diskOf req).execute path ((listField req "sql").filterMap fun s => s.str?.map textOf)).1
  let store : BackupStore :=
    { path, table := textField req "table" "controller", defaultId := textField req "default_id" "" }
  let answers := runSteps { disk } (stepsOf req "fetch") fun w step =>
    match stepName step with
    | "fetch" =>
      let r := store.fetch w.disk false
      some (w, .obj [("record", recordValue r.record), ("alarms", alarmsValue r.alarms),
        ("error", failureValue r.failure)])
    | "probe" => some (w, .obj [("probe", failureValue (store.probe w.disk))])
    | _ => none
  .obj [("kind", .text "backup"), ("stale", .bool true), ("steps", .array answers)]

/-- `live`: probe and read the live store, and put payloads there. -/
def liveOp (req : Value) : Value :=
  let store : LiveStore :=
    { contKey := textField req "cont_key" "cont", alarmsKey := textField req "alarms_key" "alarms",
      payloadKey := textField req "payload_key" "payload",
      defaultId := textField req "default_id" "" }
  let w : Host := { disk := diskOf req, kv := serverOf req (boolField req "up" true) }
  let answers := runSteps w (stepsOf req "fetch") fun w step =>
    match stepName step with
    | "fetch" =>
      let r := store.fetch w.kv false
      some (w, .obj [("record", recordValue r.record), ("alarms", alarmsValue r.alarms),
        ("error", failureValue r.failure)])
    | "probe" => some (w, .obj [("probe", failureValue (store.probe w.kv false))])
    | "mirror" =>
      let p := payloadOf ((step.given? "payload").getD (.obj []))
      let (kv, f) := store.putPayload w.kv false p
      let stored : Value := match kv.up, kv.lookup store.payloadKey with
        | true, some (.text v) => bytesValue v
        | _, _ => .null
      some ({ w with kv }, .obj [("error", failureValue f), ("stored", stored)])
    | _ => none
  .obj [("kind", .text "live"), ("stale", .bool false), ("steps", .array answers)]

/-- `identity`: load the identity file at each `load` step. -/
def identityOp (req : Value) : Value :=
  let path := textField req "path" "device.json"
  let (_, _, answers) := (stepsOf req "load").foldl (fun (w, ident, acc) step =>
    if stepName step == "load" then
      let (ident, f) := ident.load w.disk path
      let a : Value := .obj [("error", failureValue f), ("device_id", bytesValue ident.deviceId),
        ("device_name", bytesValue ident.deviceName), ("identity_json", bytesValue ident.document)]
      (w, ident, a :: acc)
    else
      let (w, a) := applyStep w step
      (w, ident, a :: acc)) (({ disk := diskOf req } : Host), ({} : Identity), [])
  .obj [("steps", .array answers.reverse)]

end Bench

end TelemetryBridge
