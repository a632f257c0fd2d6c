import TelemetryBridge.Observe.Status
import TelemetryBridge.Observe.Metrics
import TelemetryBridge.Log.Entry
import TelemetryBridge.Net.Listen

/-!
# The status server

The status server answers two paths over HTTP:

* `/metrics`, for any method: the exposition text of the metrics (empty without metrics);
* `/status`, for `GET` only: the status board as JSON and a line feed, or `null` and a line feed
  when the bridge runs without a board. Another method is not allowed there, and the answer has
  no body.

Any other path is not found. The query after `?` plays no part in the choice.

The server is started once and stopped once: starting a running server, or stopping one that
is not running, is refused with a warning. It listens on a TCP address (see `Listen.bind`) and,
while listening, reports the address it is bound to.

Main definitions: `Response`, `route`, `StatusServer`, `StatusServer.start`,
`StatusServer.stop`.
-/

namespace TelemetryBridge

/-- An HTTP answer: its status code, content type and body. -/
structure Response where
  status : Nat
  contentType : String
  body : Bytes
  deriving Inhabited

/-- The content type of the metrics exposition. -/
def expositionType : String := "text/plain; version=0.0.4; charset=utf-8; escaping=values"

/-- Answers a request for a path, from the metrics and the status board. -/
def route (method target : String) (metrics : Option Metrics) (board : Option StatusBoard) :
    Response :=
  let path := String.ofList (target.toList.takeWhile (· != '?'))
  if path = "/metrics" then
    ⟨200, expositionType, (metrics.map Metrics.exposition).getD []⟩
  else if path = "/status" then
    if method = "GET" then
      let body := match board with
        | some b => b.text
        | none => Bytes.ofString "null"
      ⟨200, "application/json", body ++ [10]⟩
    else ⟨405, "", []⟩
  else ⟨404, "text/plain; charset=utf-8", Bytes.ofString "404 page not found\n"⟩

/-- A status server: the address it is configured with, and whether it is running. -/
structure StatusServer where
  addr : String
  listening : Option Listen.Bound := none
  deriving Inhabited

namespace StatusServer

/-- Whether the server is running. -/
def running (s : StatusServer) : Bool := s.listening.isSome

/-- Starts the server. -/
def start (s : StatusServer) : StatusServer × Option Failure × List Log.Entry :=
  if s.running then
    (s, some (.say "status server is already running"),
      [Log.entry .warn "StatusServer is already running"])
  else
    match Listen.bind s.addr with
    | .error f => (s, some f, [])
    | .ok b => ({ s with listening := some b }, none, [Log.entry .info "StatusServer started successfully"])

/-- Stops the server. -/
def stop (s : StatusServer) : StatusServer × Option Failure × List Log.Entry :=
  if s.running then ({ s with listening := none }, none, [Log.entry .info "StatusServer stopped successfully"])
  else (s, some (.say "status server is not running"), [Log.entry .warn "StatusServer is not running"])

/-- Whether the server reports the address it was configured with: always when it is not
listening, and once listening only when the bound address is written exactly as configured. -/
def keepsAddress (s : StatusServer) : Bool :=
  match s.listening with
  | none => true
  | some b => b.keeps s.addr

end StatusServer

end TelemetryBridge
