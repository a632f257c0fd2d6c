import TelemetryBridge.Sources.Reading
import TelemetryBridge.Telemetry.Document
import TelemetryBridge.Telemetry.Payload
import TelemetryBridge.KeyValue.Server

/-!
# The live store

The live store is the bridge's fresh source: the controller process keeps its state document
and its alarms document under two keys of a key-value server. It is the only source that is
not stale.

Probing pings the server. Fetching reads the state key and then the alarms key; a key that
holds nothing means the store holds no data, and a failure of either read gives the default
record. The state document is read over the default record and the alarms document whole.

Every request carries whether its time allowance has already run out; such a request fails
without reaching the server.

Sharing the payload writes its document under a third key, so that other processes on the host
see what the bridge would send; a payload whose profile is not a valid document cannot be
written.

Main definitions: `LiveStore`, `LiveStore.probe`, `LiveStore.fetch`, `LiveStore.putPayload`.
-/

namespace TelemetryBridge

/-- The keys of the live store and the identifier of its default record. -/
structure LiveStore where
  contKey : Bytes
  alarmsKey : Bytes
  payloadKey : Bytes
  defaultId : Bytes := []
  deriving Inhabited

namespace LiveStore

/-- Checks that the server answers. -/
def probe (_ : LiveStore) (kv : KeyValue.Server) (expired : Bool) : Option Failure :=
  (kv.ping expired).map (.within "ping live store")

/-- Reads a key: a missing value means no data. -/
def read (kv : KeyValue.Server) (expired : Bool) (key : Bytes) : Except Failure Bytes :=
  match kv.get expired key with
  | .ok (some v) => .ok v
  | .ok none => .error (.context (Bytes.ofString "key " ++ key) .noData)
  | .error f => .error (.context (Bytes.ofString "read key " ++ key) f)

/-- Reads both documents over the default record. -/
def fetch (l : LiveStore) (kv : KeyValue.Server) (expired : Bool) : Reading :=
  let base := Record.default l.defaultId
  let fail (f : Failure) : Reading := ⟨base, some .empty, some f⟩
  match read kv expired l.contKey, read kv expired l.alarmsKey with
  | .error f, _ => fail f
  | .ok _, .error f => fail f
  | .ok cont, .ok alarms =>
    match Record.read cont base with
    | .error e => fail (.context (Bytes.ofString "key " ++ l.contKey) e.failure)
    | .ok r =>
      match Alarms.read alarms with
      | .error e =>
        fail (.context (Bytes.ofString "key " ++ l.alarmsKey)
          (.within "decode alarms document" e.failure))
      | .ok a => ⟨r, some a, none⟩

/-- Writes the payload document under the payload key. -/
def putPayload (l : LiveStore) (kv : KeyValue.Server) (expired : Bool) (p : Payload) :
    KeyValue.Server × Option Failure :=
  match p.document? with
  | none => (kv, some (.within "failed to serialize payload" (.say "json marshal error")))
  | some doc =>
    match kv.set expired l.payloadKey doc with
    | .ok kv => (kv, none)
    | .error f => (kv, some f)

end LiveStore

end TelemetryBridge
