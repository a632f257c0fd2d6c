import TelemetryBridge.Bench.Choice
import TelemetryBridge.Bench.Line
import TelemetryBridge.Bench.Broker
import TelemetryBridge.Bridge.Service
import TelemetryBridge.Observe.Server

/-!
# Bench operation on the bridge

`bridge` sets up a bridge (its cadence, a feed of replayed records or a resolver over sources,
its profile, a serial transport opened before the steps unless asked otherwise, its outlets, and
metrics with a status board unless observation is off) and runs steps on it: resetting the
transmit timer, cycles, runs, opening and closing the transport, and requests to the status
server. Times are milliseconds after `2026-10-18T12:00:00Z`.

Each step answers with the bridge's state after it and what happened during it: the writes the
serial device saw, the offers scripted outlets received, the publications the broker received,
the payload in the live store when the bridge shares it there, the status board, the metrics, the
log entries and, with a resolver, the degradations.
-/

namespace TelemetryBridge

namespace Bench

open Json

/-- The instant that step times count from: `2026-10-18T12:00:00Z`. -/
def benchEpoch : Instant := ⟨1792324800 * 1000000000⟩

/-- The cadence a request's configuration gives. -/
def cadenceOf (c : Value) : Cadence :=
  { poll := Duration.ofMillis (intField c "poll_ms" 1000)
    transmit := Duration.ofMillis (intField c "transmit_ms" 15000)
    readTimeout := Duration.ofMillis (intField c "read_timeout_ms" 0)
    eventMonitoring := boolField c "event_monitoring" false }

/-- An entry of a replayed feed: a breakdown when it names one, else a record. -/
def replayOf (v : Value) : Replay :=
  match (v.given? "panic").bind Value.str? with
  | some reason => .breakdown (textOf reason)
  | none => .record (recordOf v)

/-- An outlet a request gives. -/
def outletOf (v : Value) : Outlet :=
  match v.given? "mqtt" with
  | some spec =>
    .publisher (publisherOf spec)
      { answers := (listField spec "results").map fun r => deliveryOf (some r) }
  | none =>
    if boolField v "live" false then
      .live { contKey := Bytes.ofString "cont", alarmsKey := Bytes.ofString "alarms",
              payloadKey := textField v "payload_key" "payload" } (boolField v "up" true)
    else .scripted ((listField v "fail").map fun f => failureOf? (some f)) []

/-- The metrics in an answer, by sample name with its label. -/
def metricsValue : Option Metrics → Value
  | none => .obj []
  | some m => .obj (m.samples.map fun s =>
    let name := match s.label with
      | some (k, v) => s.family.name ++ "\x7b" ++ k ++ "=" ++ v ++ "\x7d"
      | none => s.family.name
    (name, floatValue s.value))

/-- An HTTP answer in an answer. -/
def responseValue (r : Response) : Value :=
  .obj [("status", .int r.status), ("content_type", .text r.contentType),
    ("body", bytesValue r.body)]

/-- The payload key of the first live-store outlet, if there is one. -/
def livePayloadKey? : List Outlet → Option Bytes
  | [] => none
  | .live store _ :: _ => some store.payloadKey
  | _ :: rest => livePayloadKey? rest

/-- The state of the bridge and what happened since `before`, in an answer. -/
def bridgeState (withResolver : Bool) (before : Bridge × Site) (b : Bridge) (s : Site) :
    List (String × Value) :=
  let lastTransmit : Value := match b.lastTransmit with
    | some t => .int ((t.since benchEpoch).ns / 1000000)
    | none => .null
  let calls := (List.zip (List.range b.outlets.length) (List.zip before.1.outlets b.outlets)).flatMap
    fun (i, m₀, m) => (m.received.drop m₀.received.length).map fun c =>
      Value.obj [("mirror", .text (toString i)), ("payload_json", bytesValue c.document),
        ("error", failureValue c.failure)]
  let published := (List.zip before.1.outlets b.outlets).flatMap fun (m₀, m) =>
    m.published.drop m₀.published.length
  let live := match livePayloadKey? b.outlets with
    | some key =>
      let v : Value := match s.host.kv.lookup key with
        | some (.text t) => bytesValue t
        | _ => .null
      [("live_payload", v)]
    | none => []
  let degraded := if withResolver then
      [("degraded", .array ((s.degradations.drop before.2.degradations.length).map degradationValue))]
    else []
  [("last_transmit_ms", lastTransmit),
    ("last_payload_json", documentValue b.lastPayload),
    ("writes", writesValue (s.link.device.written.drop before.2.link.device.written.length)),
    ("transport_state", .text s.transport.state.name),
    ("mirror_calls", .array calls),
    ("mqtt_published", publicationsValue published)] ++ live ++
  [("status", bytesValue (Board.text b.board)),
    ("metrics", metricsValue b.metrics),
    ("logs", logsValue (s.log.drop before.2.log.length))] ++ degraded

/-- `bridge`: set up a bridge and run steps on it. -/
def bridgeOp (req : Value) : Value :=
  let cadence := cadenceOf ((req.given? "config").getD (.obj []))
  let expired := cadence.allowance.ns ≤ 0
  let (feed, host, withResolver) : Feed × Host × Bool :=
    match specOf? req "resolver" with
    | some spec =>
      let liveSpec := specOf? spec "live"
      let backupSpec := specOf? spec "backup"
      let offer : Offer :=
        { live := liveSpec.map (backendOf .live)
          snapshot := backendOf .snapshot ((specOf? spec "snapshot").getD (.obj []))
          backup := backupSpec.map (backendOf .backup) }
      let host := hostOf req liveSpec backupSpec
      let (r, _, _) := Resolver.start offer (textField spec "default_id" "") host expired
      (.resolver r, host, true)
    | none =>
      (.replay (textOf (textField req "kind" "live")) ((listField req "records").map replayOf),
        { disk := diskOf req, kv := serverOf req true }, false)
  let (profile, _) := profileOf req host.disk
  let tspec := (req.given? "transport").getD (.obj [])
  let link : Serial.Link :=
    { opener := .scripted ((listField tspec "open_errors").map fun v => failureOf? (some v)) []
      device := { script := (listField tspec "writes").map writeAnswerOf
                  closeFailure := failureOf? (tspec.given? "close_error") } }
  let transport := Serial.Transport.create (settingsOf tspec)
  let (transport, link) := if boolField tspec "open" true then
      let (t, l, _) := transport.open link host.disk
      (t, l)
    else (transport, link)
  let observed := boolField req "observability" true
  let bridge : Bridge :=
    { cadence, feed, profile, outlets := (listField req "mirrors").map outletOf
      metrics := if observed then some {} else none
      board := if observed then some {} else none }
  let site : Site := { host, transport, link }
  let stepTime (step : Value) : Instant := benchEpoch.addMillis (intField step "t" 0)
  let (_, _, answers) := (listField req "steps").foldl (fun (b, s, acc) step =>
    let before := (b, s)
    let done (b : Bridge) (s : Site) (extra : List (String × Value)) :
        Bridge × Site × List Value :=
      (b, s, Value.obj (bridgeState withResolver before b s ++ extra) :: acc)
    match stepName step with
    | "reset" => done (b.reset (stepTime step)) s []
    | "tick" =>
      match b.tick s (stepTime step) with
      | (b, s, .ok o) => done b s [("outcome", .text o.name)]
      | (b, s, .error reason) => done b s [("panic", .text reason)]
    | "run" =>
      let (b, s, f) := b.run s (stepTime step) (boolField step "cancelled" false)
      done b s [("run_error", failureValue f)]
    | "transport_open" =>
      let (t, l, r) := s.transport.open s.link s.host.disk
      done b ({ s with transport := t, link := l }.note r.logs) [("error", failureValue r.failure)]
    | "transport_close" =>
      let (t, l, r) := s.transport.close s.link
      done b ({ s with transport := t, link := l }.note r.logs) [("error", failureValue r.failure)]
    | "http" =>
      let r := route (textOf (textField step "method" "GET")) (textOf (textField step "path" "/"))
        b.metrics b.board
      done b s [("http", responseValue r)]
    | _ =>
      let (host, a) := applyStep s.host step
      (b, { s with host }, a :: acc)) (bridge, site, [])
  .obj [("steps", .array answers.reverse)]

end Bench

end TelemetryBridge
