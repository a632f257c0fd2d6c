import TelemetryBridge.Sources.Resolver

/-!
# What the bridge reads from

The bridge reads one record per cycle from its feed. The feed is the resolver over the
configured sources, or a replay of given records under a kind of its own (the last record again
and again), which stands in for real sources. A replayed entry may also be a breakdown: the read
is abandoned with a reason, and the cycle with it.

Main definitions: `Feed`, `Feed.kind`, `Feed.fetch`.
-/

namespace TelemetryBridge

/-- One entry of a replayed feed: a record, or a breakdown with its reason. -/
inductive Replay where
  | record (r : Record)
  | breakdown (reason : String)
  deriving Inhabited

/-- Where the bridge reads records from. -/
inductive Feed where
  | resolver (r : Resolver)
  | replay (kind : String) (entries : List Replay)
  deriving Inhabited

namespace Feed

/-- The kind of source the feed reads. -/
def kind : Feed → String
  | .resolver r => r.kind
  | .replay k _ => k

/-- Reads one record: the feed after the read, and what was read or why the read broke down.
A replay moves on to its next entry if there is one after the current; an empty replay gives
the zero record. -/
def fetch (f : Feed) (h : Host) (expired : Bool) : Feed × Except String Fetched :=
  match f with
  | .resolver r =>
    let (r, got) := r.fetch h expired
    (.resolver r, .ok got)
  | .replay k entries =>
    let rest := match entries with
      | _ :: next :: more => next :: more
      | _ => entries
    let got : Except String Fetched := match entries with
      | [] => .ok ⟨Record.zero, .empty, [], []⟩
      | .record r :: _ => .ok ⟨r, .empty, [], []⟩
      | .breakdown reason :: _ => .error reason
    (.replay k rest, got)

end Feed

end TelemetryBridge
