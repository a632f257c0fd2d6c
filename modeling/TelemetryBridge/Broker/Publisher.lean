import TelemetryBridge.Telemetry.Payload
import TelemetryBridge.Files.Disk

/-!
# Publishing the payload to a message broker

The publisher keeps the latest payload on a retained topic of a message broker, so that
subscribers that connect later still find it. It publishes each payload document with its
quality-of-service byte and the retained flag, and skips a document equal to the last one the
broker accepted. A publication that times out or fails is not remembered, so the same document
is offered again next time.

The broker answers each publication as delivered, timed out or failed; the broker here is given
by the answers it will make, in order, and delivers everything after them. It keeps the
publications it received.

Before connecting over TLS, the client loads the certificate authority from a file. The file
must be readable; certificates are not decoded here, so its content is never accepted as an
authority.

Main definitions: `Publisher`, `Publisher.publish`, `Broker`, `loadAuthority`.
-/

namespace TelemetryBridge

/-- How the broker answers one publication. -/
inductive Delivery where
  | delivered
  | timedOut
  | failed (f : Failure)
  deriving Inhabited

/-- One publication received by the broker. -/
structure Publication where
  topic : Bytes
  qos : UInt8
  retained : Bool
  payload : Bytes
  deriving Inhabited

/-- A broker: the answers it will make, and the publications it received. -/
structure Broker where
  answers : List Delivery := []
  published : List Publication := []
  deriving Inhabited

/-- Receives a publication and answers it. -/
def Broker.publish (b : Broker) (pub : Publication) : Broker × Delivery :=
  match b.answers with
  | [] => ({ b with published := b.published ++ [pub] }, .delivered)
  | a :: rest => ({ answers := rest, published := b.published ++ [pub] }, a)

/-- The quality-of-service byte of a level given as an integer: its lowest eight bits. -/
def qosByte (n : Int) : UInt8 := (n % 256).toNat.toUInt8

/-- A publisher of payloads: its topic, its quality of service, and the last document the
broker accepted. -/
structure Publisher where
  topic : Bytes
  qos : UInt8
  last : Option Bytes := none
  deriving Inhabited

namespace Publisher

/-- Publishes a payload unless it equals the last one accepted. -/
def publish (p : Publisher) (b : Broker) (payload : Payload) : Publisher × Broker × Option Failure :=
  match payload.document? with
  | none => (p, b, some (.within "failed to serialize payload" (.say "json marshal error")))
  | some doc =>
    if p.last == some doc then (p, b, none)
    else
      let (b, answer) := b.publish ⟨p.topic, p.qos, true, doc⟩
      match answer with
      | .delivered => ({ p with last := some doc }, b, none)
      | .timedOut => (p, b, some (.say "timed out publishing payload"))
      | .failed f => (p, b, some (.within "failed to publish payload" f))

end Publisher

/-- Loads the certificate authority for a TLS connection: the failure to read the file, or
the refusal of its content. -/
def loadAuthority (disk : Disk) (path : Bytes) : Option Failure :=
  if path.isEmpty then none
  else
    match disk.readFile path with
    | .error f => some (.within "failed to read CA certificate" f)
    | .ok _ => some (.say "failed to append CA certificate")

end TelemetryBridge
