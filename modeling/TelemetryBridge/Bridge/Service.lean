import TelemetryBridge.Bridge.Feed
import TelemetryBridge.Bridge.Outlet
import TelemetryBridge.Serial.Transport
import TelemetryBridge.Observe.Status
import TelemetryBridge.Observe.Metrics
import TelemetryBridge.Schedule.Outcome
import TelemetryBridge.Telemetry.Frame
import TelemetryBridge.Time.Instant

/-!
# The bridge

The bridge polls its feed and sends frames over the serial line. One *cycle* at a time `now`:

1. reads a record from the feed, within the read allowance;
2. builds the payload of the record under the site profile, keeps it as the last payload, counts
   the read and puts the payload on the status board;
3. offers the payload to every outlet, logging each failure at debug level;
4. logs the record;
5. sends a frame if one is due: the time since the last transmission, held within the 64-bit
   range of a duration, has reached the transmit interval, or there was none. The time of the last transmission moves to `now` after every
   attempt, whatever its outcome.

A due frame is *suppressed* under event monitoring when the controller is idle with no fault.
Otherwise the frame of the payload is logged and sent; a failure is counted and put on the board
as the last error, a success is counted with its time and puts the frame and the time on the
board.

The read allowance is the read timeout, or the poll interval when no read timeout is set; an
allowance that is not positive has run out before any request is made.

*Running* the bridge resets the transmit timer, puts the start time on the board, logs the
start, and runs a cycle; the run is cancelled during that cycle's read, so the loop stops after
it. A loop cannot tick at a non-positive poll interval, and a breakdown of the feed ends the run;
both fail the run.

The bridge works on a *site*: the host its sources read, the serial transport and its link, and
the log and the degradations reported so far.

Main definitions: `Cadence`, `Bridge`, `Site`, `Bridge.refresh`, `Bridge.tick`, `Bridge.run`.
-/

namespace TelemetryBridge

/-- How often the bridge reads and sends, how long a read may take, and whether idle records
are sent. -/
structure Cadence where
  poll : Duration
  transmit : Duration
  readTimeout : Duration
  eventMonitoring : Bool
  deriving Inhabited

/-- The time allowed for the reads and offers of a cycle. -/
def Cadence.allowance (c : Cadence) : Duration :=
  if c.readTimeout.ns ≤ 0 then c.poll else c.readTimeout

/-- The payload before any cycle: every field zero or empty, and no profile. -/
def Payload.zero : Payload :=
  { id := [], seq := 0, pressure := 0, runcycles := 0, faults := 0, mode := 0, temp := 0,
    current := 0, profile := none }

/-- What the bridge works on and what it has reported. -/
structure Site where
  host : Host
  transport : Serial.Transport
  link : Serial.Link := {}
  log : List Log.Entry := []
  degradations : List Degradation := []
  deriving Inhabited

/-- Writes entries to the log of a site. -/
def Site.note (s : Site) (es : List Log.Entry) : Site := { s with log := s.log ++ es }

/-- The bridge: its cadence, feed, profile and outlets, its metrics and status board when it is
observed, the time of its last transmission and its last payload. -/
structure Bridge where
  cadence : Cadence
  feed : Feed
  profile : Bytes
  outlets : List Outlet := []
  metrics : Option Metrics := none
  board : Option StatusBoard := none
  lastTransmit : Option Instant := none
  lastPayload : Payload := Payload.zero
  deriving Inhabited

namespace Bridge

/-- Starts the transmit timer at `now`: the first frame is due one transmit interval later. -/
def reset (b : Bridge) (now : Instant) : Bridge := { b with lastTransmit := some now }

/-- Updates the metrics, if the bridge has them. -/
def count (b : Bridge) (f : Metrics → Metrics) : Bridge := { b with metrics := b.metrics.map f }

/-- Whether a frame is due at `now`: the duration since the last transmission, held within the
64-bit range, has reached the transmit interval. -/
def due (b : Bridge) (now : Instant) : Bool :=
  match b.lastTransmit with
  | none => true
  | some t => (now.sub t).ns ≥ b.cadence.transmit.ns

/-- Offers the payload to every outlet in turn. -/
def share (b : Bridge) (s : Site) (expired : Bool) (p : Payload) : Bridge × Site :=
  let step (acc : List Outlet × Site) (m : Outlet) : List Outlet × Site :=
    let (m, host, f) := m.offer acc.2.host expired p
    let s := { acc.2 with host }
    let s := match f with
      | some f => s.note [Log.withFailure .debug "Failed to mirror payload" (some f) []]
      | none => s
    (acc.1 ++ [m], s)
  let (ms, s) := b.outlets.foldl step ([], s)
  ({ b with outlets := ms }, s)

/-- Sends the frame of a due payload, unless event monitoring suppresses it. -/
def transmit (b : Bridge) (s : Site) (r : Record) (p : Payload) (now : Instant) :
    Bridge × Site × Outcome :=
  if b.cadence.eventMonitoring && !r.active then
    (b.count Metrics.observeSuppressed,
      s.note [Log.entry .debug "No fault and controller idle, transmission suppressed"
        [("fault", .int r.faults), ("mode", .int r.mode)]],
      .suppressed)
  else
    let frame := p.frameText
    let s := s.note [Log.entry .debug "Frame encoded"
      [("frame", .text frame), ("length", .int frame.length)]]
    let (t, l, step) := s.transport.send s.link frame
    let s := { s with transport := t, link := l }.note step.logs
    match step.failure with
    | some f =>
      let board := Board.set (Board.increment b.board "write_failures") "last_error"
        (.value (.string f.message))
      ({ b.count Metrics.observeWriteFailure with board },
        s.note [Log.withFailure .error "Error sending serial data" (some f) []], .failed)
    | none =>
      let board := Board.increment b.board "frames_sent"
      let board := Board.set board "last_frame" (.value (.string frame))
      let board := Board.set board "last_transmit" (.value (.string (Bytes.ofString now.text)))
      ({ b.count (·.observeFrameSent now.unixSeconds) with board },
        s.note [Log.entry .info "Serial data sent" [("bytes", .int frame.length), ("frame", .text frame)]],
        .sent)

/-- The first part of a cycle: reads a record, keeps its payload, counts the read, puts the payload
on the board, offers it to the outlets and logs the record. Gives the record read, or the reason
the feed broke down. -/
def refresh (b : Bridge) (s : Site) : Bridge × Site × Except String Record :=
  let expired := b.cadence.allowance.ns ≤ 0
  let (feed, got) := b.feed.fetch s.host expired
  let b := { b with feed }
  match got with
  | .error reason => (b, s, .error reason)
  | .ok f =>
    let s := { s.note f.logs with degradations := s.degradations ++ f.degradations }
    let b := f.degradations.foldl (fun b d => b.count (·.observeDegraded d.kind)) b
    let p := Payload.ofRecord b.profile f.record
    let b := { b.count Metrics.observePoll with
      lastPayload := p, board := Board.set b.board "last_payload" (.document (p.document?.getD [])) }
    let (b, s) := b.share s expired p
    (b, s.note [Log.entry .debug "Source data" [("record", .record f.record)]], .ok f.record)

/-- Runs one cycle at `now`: the outcome, or the reason the feed broke down. -/
def tick (b : Bridge) (s : Site) (now : Instant) : Bridge × Site × Except String Outcome :=
  match b.refresh s with
  | (b, s, .error reason) => (b, s, .error reason)
  | (b, s, .ok r) =>
    if b.due now then
      let (b, s, o) := b.transmit s r (Payload.ofRecord b.profile r) now
      ({ b with lastTransmit := some now }, s, .ok o)
    else (b, s, .ok .polled)

/-- The failure of a run that broke off. -/
def brokeOff (reason : String) : Failure := .say ("unexpected failure in bridge loop: " ++ reason)

/-- Runs the bridge at `now` until the cancellation during its first cycle; a run cancelled
before it starts does nothing but say so. -/
def run (b : Bridge) (s : Site) (now : Instant) (cancelled : Bool) :
    Bridge × Site × Option Failure :=
  if cancelled then (b, s.note [Log.entry .info "Bridge loop cancelled before start"], none)
  else
    let b := b.reset now
    let b := { b with board := Board.set b.board "started_at" (.value (.string (Bytes.ofString now.text))) }
    let s := s.note [Log.entry .info "Bridge loop started"
      [("backend", .str b.feed.kind), ("poll_interval", .duration b.cadence.poll.ns),
        ("transmit_interval", .duration b.cadence.transmit.ns),
        ("event_monitoring", .flag b.cadence.eventMonitoring)]]
    if b.cadence.poll.ns ≤ 0 then (b, s, some (brokeOff "non-positive interval for NewTicker"))
    else
      match b.tick s now with
      | (b, s, .error reason) => (b, s, some (brokeOff reason))
      | (b, s, .ok _) => (b, s.note [Log.entry .info "Bridge loop stopped"], none)

end Bridge

end TelemetryBridge
