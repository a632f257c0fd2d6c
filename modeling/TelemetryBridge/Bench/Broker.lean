import TelemetryBridge.Bench.Stores
import TelemetryBridge.Broker.Publisher

/-!
# Bench operations on the message broker

`mqtt_publish` offers payloads to a publisher, the broker answering each step's publication as
the step says; `mqtt_init` loads the certificate authority a TLS connection would use.
-/

namespace TelemetryBridge

namespace Bench

open Json

/-- A broker's answer given in a request: `ok` (or nothing), `timeout`, any other text as a
failure, or an object whose `error` is a failure. -/
def deliveryOf : Option Value → Delivery
  | some (.string s) =>
    if s == Bytes.ofString "ok" then .delivered
    else if s == Bytes.ofString "timeout" then .timedOut
    else .failed (.text s)
  | some v@(.object _) =>
    match failureOf? (v.given? "error") with
    | some f => .failed f
    | none => .delivered
  | _ => .delivered

/-- Publications in an answer. -/
def publicationsValue (ps : List Publication) : Value :=
  .array (ps.map fun p => .obj [("topic", bytesValue p.topic), ("qos", .int p.qos.toNat),
    ("retained", .bool p.retained), ("payload", bytesValue p.payload)])

/-- The publisher a specification gives: its topic and quality of service. -/
def publisherOf (spec : Value) : Publisher :=
  { topic := textField spec "topic" "bridge/payload", qos := qosByte (intField spec "qos" 1) }

/-- `mqtt_publish`: offer each step's payload to the publisher. -/
def mqttPublishOp (req : Value) : Value :=
  let (_, _, answers) := (listField req "steps").foldl (fun (p, broker, acc) step =>
    let before := broker.published.length
    let broker := { broker with answers := [deliveryOf (step.given? "result")] }
    let payload := payloadOf ((step.given? "payload").getD (.obj []))
    let (p, broker, f) := p.publish broker payload
    (p, broker, Value.obj [("error", failureValue f),
      ("published", publicationsValue (broker.published.drop before))] :: acc))
    (publisherOf req, ({} : Broker), [])
  .obj [("steps", .array answers.reverse)]

/-- `mqtt_init`: load the certificate authority. -/
def mqttInitOp (req : Value) : Value :=
  .obj [("error", failureValue (loadAuthority (diskOf req) (textField req "ca_certificate" "")))]

end Bench

end TelemetryBridge
