import TelemetryBridge.Bench.Numbers
import TelemetryBridge.Bench.Publish
import TelemetryBridge.Bench.Choice
import TelemetryBridge.Bench.Line
import TelemetryBridge.Bench.Bridge
import TelemetryBridge.Bench.Observe
import TelemetryBridge.Bench.Settings
import TelemetryBridge.Json.Reader
import TelemetryBridge.Json.Writer

/-!
# Answering a request line

A request line is one JSON object naming an operation in `op`; the answer is one JSON object.
A line that is not a JSON object, or names no known operation, is answered with a `bad_input`
error object.

Main definition: `Bench.respond`.
-/

namespace TelemetryBridge

namespace Bench

open Json

/-- The answer to a request that cannot be served. -/
def badInput (msg : String) : Value := .obj [("error", .text "bad_input"), ("message", .text msg)]

/-- Serves one request. -/
def serve (req : Value) : Value :=
  match (req.field? "op").bind Value.str? with
  | none => badInput "missing op"
  | some op =>
    let name := String.fromUTF8? (ByteArray.mk op.toArray) |>.getD ""
    if name = "round2" then roundOp req
    else if name = "marshal_float" then wireOp req
    else if name = "enum_string" then namesOp req
    else if name = "default_record" then defaultRecordOp req
    else if name = "active" then activeOp req
    else if name = "build" then buildOp req
    else if name = "encode" then encodeOp req
    else if name = "snapshot" then snapshotOp req
    else if name = "backup" then backupOp req
    else if name = "live" then liveOp req
    else if name = "resolver" then resolverOp req
    else if name = "transport" then transportOp req
    else if name = "identity" then identityOp req
    else if name = "bridge" then bridgeOp req
    else if name = "status_board" then statusBoardOp req
    else if name = "server" then serverOp req
    else if name = "mqtt_publish" then mqttPublishOp req
    else if name = "mqtt_init" then mqttInitOp req
    else if name = "load_config" then loadConfigOp req
    else if name = "config_defaults" then configDefaultsOp req
    else badInput ("unknown op " ++ name)

/-- Answers one request line with one answer line (without the line break). -/
def respond (line : Bytes) : Bytes :=
  match readWhole line with
  | .ok req@(.object _) => (serve req).render false
  | _ => (badInput "request is not a JSON object").render false

end Bench

end TelemetryBridge
