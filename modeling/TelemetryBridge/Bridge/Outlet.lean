import TelemetryBridge.Sources.Backend
import TelemetryBridge.Broker.Publisher

/-!
# Outlets of the payload

On every cycle the bridge offers the payload it built to each of its outlets, so that other
consumers on the host see what it would send. An outlet is the live store (the payload key of the
key-value server, over a connection of its own that may be down), a publisher on a message
broker, or a scripted outlet that answers each offer as given (and accepts everything after) and
keeps the offers it received.

Main definitions: `Outlet`, `Outlet.offer`.
-/

namespace TelemetryBridge

/-- An offer received by a scripted outlet: the payload document and the answer given. -/
structure OutletCall where
  document : Bytes
  failure : Option Failure
  deriving Inhabited

/-- A consumer of the payload. -/
inductive Outlet where
  /-- An outlet with the answers it will give and the offers received so far. -/
  | scripted (answers : List (Option Failure)) (received : List OutletCall)
  /-- The live store, over a connection that is up or down. -/
  | live (store : LiveStore) (up : Bool)
  /-- A publisher on a broker. -/
  | publisher (p : Publisher) (broker : Broker)
  deriving Inhabited

namespace Outlet

/-- Offers the payload: the outlet after it, the host after it, and the failure. -/
def offer (m : Outlet) (h : Host) (expired : Bool) (p : Payload) : Outlet × Host × Option Failure :=
  match m with
  | .scripted answers received =>
    let (f, rest) := match answers with
      | [] => (none, [])
      | a :: rest => (a, rest)
    (.scripted rest (received ++ [⟨(p.document?).getD [], f⟩]), h, f)
  | .live store up =>
    let (kv, f) := store.putPayload { h.kv with up } expired p
    (m, { h with kv := { h.kv with entries := kv.entries } }, f)
  | .publisher pub broker =>
    let (pub, broker, f) := pub.publish broker p
    (.publisher pub broker, h, f)

/-- The offers a scripted outlet received. -/
def received : Outlet → List OutletCall
  | .scripted _ r => r
  | _ => []

/-- The publications a publisher's broker received. -/
def published : Outlet → List Publication
  | .publisher _ b => b.published
  | _ => []

end Outlet

end TelemetryBridge
