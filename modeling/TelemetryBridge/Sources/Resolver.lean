import TelemetryBridge.Sources.Backend
import TelemetryBridge.Log.Entry

/-!
# Choosing a source

The resolver picks one source when the bridge starts and reads from it on every cycle; it never
switches afterwards. The choice, by priority:

1. the live store, if there is one and its probe succeeds;
2. the snapshot file, if its probe succeeds;
3. the backup database, if there is one and its probe succeeds;
4. the snapshot file otherwise, in case the file appears later.

The sources not chosen are closed, in the order live, snapshot, backup; a failure to close one
is logged and otherwise ignored.

A read that fails gives the default record of the resolver's identifier and no alarms, and is
reported to the degradation listener. The first failure of a run of failures is logged as an
error, or as a warning when the source merely holds no data; the rest of the run is logged at
debug level. The first success after a failure is logged once. Absent alarms read as none.

Main definitions: `Role`, `Offer.chooseWith`, `Resolver`, `Resolver.start`, `Resolver.settle`,
`Resolver.fetch`.
-/

namespace TelemetryBridge

/-- The place of a source in the order of choice. -/
inductive Role where
  | live
  | snapshot
  | backup
  deriving Repr, DecidableEq, Inhabited

/-- The sources offered to the resolver: the snapshot file is always there. -/
structure Offer where
  live : Option Backend := none
  snapshot : Backend
  backup : Option Backend := none
  deriving Inhabited

namespace Offer

/-- The source in a role. -/
def get (o : Offer) : Role → Option Backend
  | .live => o.live
  | .snapshot => some o.snapshot
  | .backup => o.backup

/-- The choice by priority, each candidate probed through `probe` when its turn comes: the role
chosen, with the entries the choice logs. -/
def chooseWith {m : Type → Type} [Monad m] (o : Offer) (probe : Role → Backend → m (Option Failure)) :
    m (Role × List Log.Entry) := do
  let afterLive (logs : List Log.Entry) : m (Role × List Log.Entry) := do
    if (← probe .snapshot o.snapshot).isNone then
      return (.snapshot, logs ++ [Log.entry .warn "Using snapshot file for data (may be stale)"
        [("backend", .str "snapshot")]])
    match o.backup with
    | some b =>
      if (← probe .backup b).isNone then
        return (.backup, logs ++ [Log.entry .warn "Using backup store for data"
          [("backend", .str "backup")]])
      return (.snapshot, logs ++ [noSource])
    | none => return (.snapshot, logs ++ [noSource])
  match o.live with
  | some l =>
    match ← probe .live l with
    | none => return (.live, [Log.entry .info "Using live store for data (live data)"
        [("backend", .str "live")]])
    | some f => afterLive [Log.withFailure .warn "Live store unreachable" (some f) []]
  | none => afterLive []
where
  /-- The entry for a choice of the snapshot file that does not exist yet. -/
  noSource : Log.Entry :=
    Log.entry .warn "No data source found, will use snapshot file when available"
      [("backend", .str "snapshot")]

/-- The role chosen by priority with the sources' own probes, with the entries the choice logs. -/
def choose (o : Offer) (h : Host) (expired : Bool) : Role × List Log.Entry :=
  Id.run (o.chooseWith fun _ b => pure (b.probe h expired))

end Offer

/-- The resolver: the chosen source, the identifier of the default record, and whether the last
read failed. -/
structure Resolver where
  backend : Backend
  defaultId : Bytes
  degraded : Bool := false
  deriving Inhabited

/-- A failed read as the degradation listener hears of it: the source's kind and the failure. -/
structure Degradation where
  kind : String
  failure : Failure
  deriving Inhabited

/-- What one read of the resolver gives. -/
structure Fetched where
  record : Record
  alarms : Alarms
  degradations : List Degradation := []
  logs : List Log.Entry := []
  deriving Inhabited

namespace Resolver

/-- Chooses a source and closes the others: the resolver, the kinds of the sources closed, and
the entries logged. -/
def start (o : Offer) (defaultId : Bytes) (h : Host) (expired : Bool) :
    Resolver × List String × List Log.Entry :=
  let (role, logs) := o.choose h expired
  let others := [Role.live, Role.snapshot, Role.backup].filter (· != role)
  let (closed, logs) := others.foldl (fun (closed, logs) r =>
    match o.get r with
    | some b =>
      let logs := match b.close with
        | some f => logs ++ [Log.withFailure .warn "Failed to close unused backend" (some f)
            [("backend", .str b.kind)]]
        | none => logs
      (closed ++ [b.kind], logs)
    | none => (closed, logs)) ([], logs)
  (⟨(o.get role).getD o.snapshot, defaultId, false⟩, closed, logs)

/-- The kind of the chosen source. -/
def kind (r : Resolver) : String := r.backend.kind

/-- The answer to a reading of the chosen source: the reading itself when it succeeded, the
default record of the resolver's identifier and no alarms when it failed. -/
def settle (r : Resolver) (reading : Reading) : Resolver × Fetched :=
  match reading.failure with
  | some f =>
    let d : Degradation := ⟨r.kind, f⟩
    let level := if r.degraded then Log.Level.debug
      else if f.kind == .noData then .warn else .error
    let entry := Log.withFailure level "Source read failed, using defaults" (some f)
      [("backend", .str r.kind)]
    ({ r with degraded := true },
      ⟨Record.default r.defaultId, .empty, [d], [entry]⟩)
  | none =>
    let logs := if r.degraded then
        [Log.entry .info "Source data available again" [("backend", .str r.kind)]]
      else []
    ({ r with degraded := false }, ⟨reading.record, reading.alarms.getD .empty, [], logs⟩)

/-- Reads the chosen source, falling back to the default record on failure. -/
def fetch (r : Resolver) (h : Host) (expired : Bool) : Resolver × Fetched :=
  let (b, reading) := r.backend.fetch h expired
  { r with backend := b }.settle reading

/-- Closes the chosen source. -/
def close (r : Resolver) : Option Failure := r.backend.close

end Resolver

end TelemetryBridge
