import TelemetryBridge.Bench.Setup
import TelemetryBridge.Bench.Answer
import TelemetryBridge.Telemetry.Frame
import TelemetryBridge.Telemetry.Profile

/-!
# Bench operations on payloads and frames

`build` makes the payload and frame of a record under a profile given inline or by path;
`encode` writes a given payload and its frame.
-/

namespace TelemetryBridge

namespace Bench

open Json

/-- A payload given field by field; absent fields are zero or empty, an absent profile is
none. -/
def payloadOf (v : Value) : Payload :=
  { id := bytesField v "id" [], seq := intField v "s" 0, pressure := floatField v "p" 0,
    runcycles := intField v "r" 0, faults := intField v "f" 0, mode := intField v "m" 0,
    temp := floatField v "t" 0, current := floatField v "c" 0, profile := bytes? v "pr" }

/-- The document of a payload in an answer, or the marker of a payload that cannot be
written. -/
def documentValue (p : Payload) : Value :=
  match p.document? with
  | some d => bytesValue d
  | none => .obj [("marshal_error", .text "json marshal error")]

/-- A frame in an answer, field by field. -/
def frameValue (f : Frame) : Value :=
  .obj [("type", .text "data"), ("gmid", bytesValue f.gmid), ("press", floatValue f.press),
    ("mode", .int f.mode), ("current", floatValue f.current), ("fault", .int f.fault),
    ("cycles", .int f.cycles)]

/-- The profile a request names, inline or by path, with the entries its loading writes. -/
def profileOf (req : Value) (disk : Disk) : Bytes × List Log.Entry :=
  match (req.given? "profile_path").bind Value.str? with
  | some path => Profile.load disk path
  | none => (Profile.ofDocument ((bytes? req "profile").getD []), [])

/-- `build`: the profile, and the payload and frame of the record when one is given. -/
def buildOp (req : Value) : Value :=
  let (profile, logs) := profileOf req (diskOf req)
  let made := match req.given? "record" with
    | some r =>
      let p := Payload.ofRecord profile (recordOf r)
      [("payload_json", documentValue p), ("frame", bytesValue p.frameText)]
    | none => []
  .obj ([("profile", bytesValue profile), ("logs", logsValue logs)] ++ made)

/-- `encode`: the document, frame text and frame fields of a payload. -/
def encodeOp (req : Value) : Value :=
  let p := payloadOf ((req.given? "payload").getD (.object []))
  .obj [("payload_json", documentValue p), ("frame", bytesValue p.frameText),
    ("new_frame", frameValue (Frame.ofPayload p))]

end Bench

end TelemetryBridge
