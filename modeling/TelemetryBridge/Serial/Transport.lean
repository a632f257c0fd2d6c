import TelemetryBridge.Serial.Buffer
import TelemetryBridge.Serial.State
import TelemetryBridge.Log.Entry

/-!
# The serial transport

The transport owns the serial connection: it opens the device once, writes and flushes each
frame, and closes the device once.

* Opening does nothing while the transport is open or failed. Otherwise the opener is tried;
  when it fails the transport stays closed (a later open tries again), and the failure is
  reported as a failure to open the port.
* Sending needs a held port (`serial port is closed` otherwise). The frame is written to the
  buffer and the buffer flushed; a failure of either leaves the transport failed with its buffer
  emptied, the port still held, so that the next send tries again. A send that succeeds after a
  failure reports the port writable again.
* Closing releases the port and leaves the transport closed; closing a transport that holds no
  port does nothing.

Every entry the transport logs names its port.

Main definitions: `Serial.Link`, `Serial.Transport`, `Transport.open`, `Transport.send`,
`Transport.close`, and `Transport.perform`, which makes a `Serial.Call`.
-/

namespace TelemetryBridge

namespace Serial

/-- The serial side of the host: how devices are opened, and the device. -/
structure Link where
  opener : Opener := .scripted [] []
  device : Device := {}
  deriving Inhabited

/-- A serial transport: its settings, its state, and the buffer of the port it holds. -/
structure Transport where
  settings : Settings
  state : LineState := .closed
  port : Option Buffer := none
  deriving Inhabited

/-- A call on the transport. -/
inductive Call where
  | «open»
  | send (frame : Bytes)
  | close
  deriving Inhabited

/-- What one operation of the transport gives besides the new transport and link: its failure
and the entries it logged. -/
structure Step where
  failure : Option Failure := none
  logs : List Log.Entry := []
  deriving Inhabited

namespace Transport

/-- A new, closed transport. -/
def create (s : Settings) : Transport := { settings := s }

/-- An entry of the transport, naming its port. -/
def note (t : Transport) (level : Log.Level) (message : String) (f : Option Failure)
    (fields : List (String × Log.Datum)) : Log.Entry :=
  Log.withFailure level message f ([("port", .text t.settings.name)] ++ fields)

/-- Opens the device. -/
def «open» (t : Transport) (l : Link) (disk : Disk) : Transport × Link × Step :=
  match t.state with
  | .open | .failed => (t, l, {})
  | _ =>
    let (opener, f) := l.opener.attempt disk t.settings
    let l := { l with opener }
    match f with
    | some f =>
      ({ t with state := .closed }, l,
        ⟨some (.openFailed t.settings.name f),
          [t.note .error "Failed to open serial port" (some f) []]⟩)
    | none =>
      ({ t with state := .open, port := some {} }, l,
        ⟨none, [t.note .info "Serial port opened" none [("baud", .int t.settings.baud)]]⟩)

/-- Writes a frame and flushes it to the device. -/
def send (t : Transport) (l : Link) (frame : Bytes) : Transport × Link × Step :=
  match t.port with
  | none => (t, l, ⟨some .portClosed, []⟩)
  | some b =>
    let fail (d : Device) (what : String) (f : Failure) : Transport × Link × Step :=
      ({ t with state := .failed, port := some {} }, { l with device := d },
        ⟨some (.within what f), []⟩)
    let (b, d, f) := b.write l.device frame
    match f with
    | some f => fail d "failed to write frame" f
    | none =>
      let (b, d, f) := b.flush d
      match f with
      | some f => fail d "failed to flush frame" f
      | none =>
        let logs := if t.state == .failed then
            [t.note .info "Serial port writable again" none []] else []
        ({ t with state := .open, port := some b }, { l with device := d }, ⟨none, logs⟩)

/-- Closes the device. -/
def close (t : Transport) (l : Link) : Transport × Link × Step :=
  match t.port with
  | none => ({ t with state := .closed }, l, {})
  | some _ =>
    let t := { t with state := .closed, port := none }
    let (d, f) := l.device.close
    let l := { l with device := d }
    match f with
    | some f =>
      (t, l, ⟨some (.within "failed to close serial port" f),
        [t.note .error "Failed to close serial port" (some f) []]⟩)
    | none => (t, l, ⟨none, [t.note .info "Serial port closed" none []]⟩)

/-- Makes one call on the transport. -/
def perform (t : Transport) (l : Link) (disk : Disk) : Call → Transport × Link × Step
  | .open => t.open l disk
  | .send frame => t.send l frame
  | .close => t.close l

end Transport

end Serial

end TelemetryBridge
