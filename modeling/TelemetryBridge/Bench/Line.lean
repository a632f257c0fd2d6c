import TelemetryBridge.Bench.Stores
import TelemetryBridge.Serial.Transport

/-!
# Bench operation on the serial transport

`transport` runs open, send, close and state steps on a transport whose device answers writes
by a script. The device is opened by a scripted opener, or by the system opener when the request
asks for the real one. Each step answers with its failure, the state after it, the writes the
device saw during it and the entries it logged.
-/

namespace TelemetryBridge

namespace Bench

open Json

/-- The line settings a request gives. -/
def settingsOf (req : Value) : Serial.Settings :=
  { name := textField req "name" "/dev/ttyAMA0", baud := intField req "baud" 9600
    readTimeout := Duration.ofMillis (intField req "read_timeout_ms" 1000) }

/-- Line settings in an answer, with the fixed framing. -/
def settingsValue (s : Serial.Settings) : Value :=
  .obj [("name", bytesValue s.name), ("baud", .int s.baud),
    ("read_timeout_ms", .int (s.readTimeout.ns.tdiv 1000000)), ("size", .int 8),
    ("parity", .text "N"), ("stop_bits", .int 1)]

/-- A device's answer to one write, given in a request. -/
def writeAnswerOf (v : Value) : Serial.WriteAnswer :=
  { accepted := ((v.given? "n").bind intOf?).map Int.toNat
    failure := failureOf? (v.given? "error") }

/-- The frame of a send step: text, base64, or a text repeated. -/
def frameOf (step : Value) : Bytes :=
  match step.given? "frame_repeat" with
  | some r => (List.replicate (intField r "n" 0).toNat (textField r "s" "")).flatten
  | none => bytesField step "frame" []

/-- Writes in an answer. -/
def writesValue (ws : List (Bytes × Nat)) : Value :=
  .array (ws.map fun (d, n) => .obj [("data", bytesValue d), ("offered", .int n)])

/-- `transport`: run steps on a serial transport. -/
def transportOp (req : Value) : Value :=
  let settings := settingsOf req
  let link : Serial.Link :=
    { opener := if boolField req "real_opener" false then .system
        else .scripted ((listField req "open_errors").map fun v => failureOf? (some v)) []
      device := { script := (listField req "writes").map writeAnswerOf
                  closeFailure := failureOf? (req.given? "close_error") } }
  let host : Host := { disk := diskOf req }
  let (_, _, link, answers) := (stepsOf req "state").foldl (fun (h, t, link, acc) step =>
    let before := link.device.written.length
    let (h, t, link, out) : Host × Serial.Transport × Serial.Link × Option Serial.Step :=
      match stepName step with
      | "open" => let (t, l, s) := t.perform link h.disk .open; (h, t, l, some s)
      | "send" => let (t, l, s) := t.perform link h.disk (.send (frameOf step)); (h, t, l, some s)
      | "close" => let (t, l, s) := t.perform link h.disk .close; (h, t, l, some s)
      | "state" => (h, t, link, some {})
      | _ => let (h, _) := applyStep h step; (h, t, link, none)
    let a : Value := match out with
      | some s =>
        .obj [("error", failureValue s.failure), ("state", .text t.state.name),
          ("writes", writesValue (link.device.written.drop before)), ("logs", logsValue s.logs)]
      | none => .obj []
    (h, t, link, a :: acc)) (host, Serial.Transport.create settings, link, [])
  .obj [("line_configs", .array (link.opener.attempts.map settingsValue)),
    ("line_config", settingsValue settings), ("steps", .array answers.reverse)]

end Bench

end TelemetryBridge
