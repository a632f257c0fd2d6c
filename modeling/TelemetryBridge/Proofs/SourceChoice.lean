import TelemetryBridge.Sources.Resolver

/-! # Choosing a source and reading through it

The resolver probes the offered sources in the order live store, snapshot file, backup
database, keeps the first that answers (the snapshot file when none does), closes the others
and from then on reads only the one it kept. This file proves that life from both ends.

The choice is written once over any monad (`Offer.chooseWith`), so that a probe which notes the
role it is asked about (`Offer.tracedProbe`) shows which probes are made: each offered source at
most once, in the order of choice, up to the first that answers (`Offer.probed`).

The reads after the start are laid against a law per reading (`Resolver.Answered`) that depends
on the reading and on whether the read before it failed. The resolver keeps that fact in its
`degraded` flag; the step lemma `Resolver.settle_answered` shows one reading keeps the flag equal
to it, and the run lemma `Resolver.fetchAll_answers` carries it over any sequence of reads. The
count of the failure reports above debug level is then the count of runs of failed reads
(`Resolver.alerts_eq_failureRuns`).

Main statements:

* `Offer.chooseWith_tracedProbe`: the probes made, in order, and the choice they lead to.
* `Resolver.fetchAll_answers`: every answer over any run of reads follows its law.
* `Resolver.serves`: the whole life of a resolver from its start.
-/

namespace TelemetryBridge

/-! ### The choice -/

namespace Offer

/-- The roles of the sources offered, in the order of choice. -/
def roles (o : Offer) : List Role :=
  [Role.live, .snapshot, .backup].filter fun r => (o.get r).isSome

/-- Whether the source in a role is offered and answers its probe by `ans`. -/
def ready (o : Offer) (ans : Role → Backend → Option Failure) (r : Role) : Bool :=
  (o.get r).any fun b => (ans r b).isNone

/-- The role chosen: the first offered role that is ready, the snapshot file when none is. -/
def chosen (o : Offer) (ready : Role → Bool) : Role :=
  (o.roles.find? ready).getD .snapshot

/-- The roles probed: those before the first that is ready, then that one. -/
def probed (o : Offer) (ready : Role → Bool) : List Role :=
  o.roles.takeWhile (fun r => !ready r) ++ (o.roles.find? ready).toList

/-- A probe that notes the role it is asked about, then answers by `ans`. -/
def tracedProbe (ans : Role → Backend → Option Failure) (r : Role) (b : Backend) :
    StateM (List Role) (Option Failure) :=
  modifyGet fun t => (ans r b, t ++ [r])

/-- **The probes made.** Whatever the probes answer, the choice probes the roles of `probed` in
order and nothing else, and noting them changes nothing in what it chooses or logs. -/
theorem chooseWith_tracedProbe (o : Offer) (ans : Role → Backend → Option Failure) :
    Id.run ((o.chooseWith (tracedProbe ans)).run []) =
      (Id.run (o.chooseWith fun r b => pure (ans r b)), o.probed (o.ready ans)) := by
  -- one case for each way the sources can be offered, then one for each answer of a probe
  obtain ⟨live, snap, backup⟩ := o
  cases live with
  | none =>
    cases backup with
    | none =>
      cases hs : ans .snapshot snap <;>
        simp [chooseWith, tracedProbe, probed, roles, ready, get, hs]
    | some b =>
      cases hs : ans .snapshot snap <;> cases hb : ans .backup b <;>
        simp [chooseWith, tracedProbe, probed, roles, ready, get, hs, hb]
  | some l =>
    cases backup with
    | none =>
      cases hl : ans .live l <;> cases hs : ans .snapshot snap <;>
        simp [chooseWith, tracedProbe, probed, roles, ready, get, hs, hl]
    | some b =>
      cases hl : ans .live l <;> cases hs : ans .snapshot snap <;> cases hb : ans .backup b <;>
        simp [chooseWith, tracedProbe, probed, roles, ready, get, hs, hb, hl]

/-- **The role chosen** is the first offered role whose probe answers, the snapshot file when
none does. -/
theorem chooseWith_pure_fst (o : Offer) (ans : Role → Backend → Option Failure) :
    (Id.run (o.chooseWith fun r b => pure (ans r b))).1 = o.chosen (o.ready ans) := by
  obtain ⟨live, snap, backup⟩ := o
  cases live with
  | none =>
    cases backup with
    | none => cases hs : ans .snapshot snap <;> simp [chooseWith, chosen, roles, ready, get, hs]
    | some b =>
      cases hs : ans .snapshot snap <;> cases hb : ans .backup b <;>
        simp [chooseWith, chosen, roles, ready, get, hs, hb]
  | some l =>
    cases backup with
    | none =>
      cases hl : ans .live l <;> cases hs : ans .snapshot snap <;>
        simp [chooseWith, chosen, roles, ready, get, hs, hl]
    | some b =>
      cases hl : ans .live l <;> cases hs : ans .snapshot snap <;> cases hb : ans .backup b <;>
        simp [chooseWith, chosen, roles, ready, get, hs, hb, hl]

/-- The role chosen is always offered: a ready role is, and so is the snapshot file. -/
theorem get_chosen_isSome (o : Offer) (ans : Role → Backend → Option Failure) :
    (o.get (o.chosen (o.ready ans))).isSome := by
  unfold chosen
  cases hf : o.roles.find? (o.ready ans) with
  | none => rfl
  | some r =>
    have hr : r ∈ o.roles := List.mem_of_find?_eq_some hf
    exact (List.mem_filter.mp hr).2

end Offer

/-! ### The start -/

namespace Resolver

theorem start_fst (o : Offer) (id : Bytes) (h : Host) (expired : Bool) :
    (start o id h expired).1 = ⟨(o.get (o.choose h expired).1).getD o.snapshot, id, false⟩ := by
  unfold start
  generalize o.choose h expired = c
  obtain ⟨role, logs⟩ := c
  rfl

/-- The sources closed at the start are the offered ones other than the chosen, in the order of
choice, each once. -/
theorem start_closed (o : Offer) (id : Bytes) (h : Host) (expired : Bool) :
    (start o id h expired).2.1 =
      ((o.roles.filter (· != (o.choose h expired).1)).filterMap o.get).map Backend.kind := by
  unfold start
  generalize o.choose h expired = c
  obtain ⟨role, logs⟩ := c
  obtain ⟨live, snap, backup⟩ := o
  cases role <;> cases live <;> cases backup <;> simp [Offer.roles, Offer.get]

end Resolver

/-! ### The reads -/

theorem Failure.kind_eq_noData_iff (f : Failure) :
    f.kind = .noData ↔ f.reaches (· matches .noData) := by
  unfold Failure.kind
  split
  next h => exact ⟨fun _ => h, fun _ => rfl⟩
  next h =>
    refine ⟨fun hk => ?_, fun hr => absurd hr h⟩
    repeat' split at hk
    all_goals cases hk

theorem Backend.kind_fetch (b : Backend) (h : Host) (expired : Bool) :
    (b.fetch h expired).1.kind = b.kind := by
  unfold fetch
  split
  · rfl
  · rfl
  · rfl
  · split <;> rfl

/-- The readings a source gives for a sequence of steps, each step the host as it stands and
whether the time allowed has run out; the source moves on as it is read. -/
def Backend.readings (b : Backend) : List (Host × Bool) → List Reading
  | [] => []
  | (h, e) :: steps => (b.fetch h e).2 :: (b.fetch h e).1.readings steps

namespace Resolver

/-- The answers of the resolver to a sequence of steps, reading its source once in each. -/
def fetchAll (r : Resolver) : List (Host × Bool) → List Fetched
  | [] => []
  | (h, e) :: steps => (r.fetch h e).2 :: (r.fetch h e).1.fetchAll steps

/-- What the resolver answers to one reading of a source of kind `kind`, given whether the read
before it failed (`after`): the reading's record with its alarms or none; or for a failure the
default record, no alarms, one report to the degradation listener and one entry, at debug level
within a run of failures, else a warning when the failure reaches `noData` and an error
otherwise. The first success after a failure logs that data is available again. -/
def Answered (id : Bytes) (kind : String) (after : Bool) (rd : Reading) (f : Fetched) : Prop :=
  match rd.failure with
  | some e =>
    f.record = Record.default id ∧ f.alarms = .empty ∧ f.degradations = [⟨kind, e⟩] ∧
      f.logs = [Log.withFailure
        (if after then .debug else if e.reaches (· matches .noData) then .warn else .error)
        "Source read failed, using defaults" (some e) [("backend", .str kind)]]
  | none =>
    f.record = rd.record ∧ f.alarms = rd.alarms.getD .empty ∧ f.degradations = [] ∧
      f.logs = if after then [Log.entry .info "Source data available again" [("backend", .str kind)]]
        else []

/-- Each answer follows its reading, given whether the reading before it failed; `after` says so
of the reading before the first. -/
def Answers (id : Bytes) (kind : String) : Bool → List Reading → List Fetched → Prop
  | _, [], [] => True
  | after, rd :: rds, f :: fs =>
    Answered id kind after rd f ∧ Answers id kind rd.failure.isSome rds fs
  | _, _, _ => False

/-- The runs of consecutive failed reads; `after` says whether the read before the first failed,
in which case a leading failure continues that run. -/
def failureRuns : Bool → List Reading → Nat
  | _, [] => 0
  | after, rd :: rds =>
    (if rd.failure.isSome && !after then 1 else 0) + failureRuns rd.failure.isSome rds

/-- The entries that report a failed read at warning or error level. -/
def alerts (fs : List Fetched) : Nat :=
  (fs.flatMap (·.logs)).countP fun e =>
    e.message == "Source read failed, using defaults" && e.level != .debug

/-- **One reading**: the answer follows the reading, and the resolver then remembers whether it
failed. -/
theorem settle_answered (r : Resolver) (rd : Reading) :
    Answered r.defaultId r.kind r.degraded rd (r.settle rd).2 ∧
      (r.settle rd).1 = { r with degraded := rd.failure.isSome } := by
  unfold settle
  cases hf : rd.failure with
  | none => simp [Answered, hf]
  | some e => simp [Answered, hf, Failure.kind_eq_noData_iff]

/-- **A run of reads**: every answer follows its reading of the source kept, the flag of the
resolver standing for whether the read before failed. -/
theorem fetchAll_answers (r : Resolver) (steps : List (Host × Bool)) :
    Answers r.defaultId r.kind r.degraded (r.backend.readings steps) (r.fetchAll steps) := by
  induction steps generalizing r with
  | nil => trivial
  | cons step steps ih =>
    obtain ⟨h, e⟩ := step
    rcases hb : r.backend.fetch h e with ⟨b, rd⟩
    -- the resolver reads its source once, then settles on the reading
    have hfetch : r.fetch h e = { r with backend := b }.settle rd := by
      simp only [fetch, hb]
    have hkind : b.kind = r.kind := by
      have h₁ := Backend.kind_fetch r.backend h e
      rw [hb] at h₁
      exact h₁
    obtain ⟨hans, hnext⟩ := settle_answered { r with backend := b } rd
    have hrest := ih { r with backend := b, degraded := rd.failure.isSome }
    simp only [fetchAll, Backend.readings, hb, hfetch, hnext, Answers]
    exact ⟨hkind ▸ hans, hkind ▸ hrest⟩

/-- Answers that follow their readings hold one alert for each run of failed reads. -/
theorem alerts_eq_failureRuns {id : Bytes} {kind : String} {after : Bool} {rds : List Reading}
    {fs : List Fetched} (h : Answers id kind after rds fs) : alerts fs = failureRuns after rds := by
  induction rds generalizing after fs with
  | nil =>
    cases fs with
    | nil => rfl
    | cons f fs => exact h.elim
  | cons rd rds ih =>
    cases fs with
    | nil => exact h.elim
    | cons f fs =>
      obtain ⟨hf, hrest⟩ := h
      -- the answer to the first reading holds one alert exactly when a run of failures starts
      have hfirst : alerts [f] = if rd.failure.isSome && !after then 1 else 0 := by
        unfold Answered at hf
        cases he : rd.failure with
        | none =>
          rw [he] at hf
          obtain ⟨-, -, -, hlogs⟩ := hf
          cases after <;> simp [alerts, hlogs, Log.entry]
        | some e =>
          rw [he] at hf
          obtain ⟨-, -, -, hlogs⟩ := hf
          have hloud : ∀ (c : Prop) [Decidable c], (if c then Log.Level.warn else .error) ≠ .debug := by
            intro c _
            split <;> simp
          cases after <;> simp [alerts, hlogs, Log.withFailure, hloud]
      have hcount : alerts (f :: fs) = alerts [f] + alerts fs := by
        simp [alerts, List.countP_append]
      rw [hcount, hfirst, ih hrest, failureRuns]

/-! ### The whole life -/

/-- The life of a resolver started on an offer with the host `h`, then read once per step: the
probes made and the choice, the source kept and the sources closed, and the answers to every
read, which follow the readings of the source kept and nothing else. -/
def Serves (o : Offer) (id : Bytes) (h : Host) (expired : Bool) (steps : List (Host × Bool)) :
    Prop :=
  let ans : Role → Backend → Option Failure := fun _ b => b.probe h expired
  let role := o.chosen (o.ready ans)
  let r := (start o id h expired).1
  Id.run ((o.chooseWith (Offer.tracedProbe ans)).run []) =
      (o.choose h expired, o.probed (o.ready ans)) ∧
    (o.choose h expired).1 = role ∧
    o.get role = some r.backend ∧
    (start o id h expired).2.1 = ((o.roles.filter (· != role)).filterMap o.get).map Backend.kind ∧
    Answers id r.kind false (r.backend.readings steps) (r.fetchAll steps) ∧
    alerts (r.fetchAll steps) = failureRuns false (r.backend.readings steps)

theorem serves (o : Offer) (id : Bytes) (h : Host) (expired : Bool)
    (steps : List (Host × Bool)) : Serves o id h expired steps := by
  let ans : Role → Backend → Option Failure := fun _ b => b.probe h expired
  have hrole : (o.choose h expired).1 = o.chosen (o.ready ans) := o.chooseWith_pure_fst ans
  obtain ⟨b, hb⟩ := Option.isSome_iff_exists.mp (o.get_chosen_isSome ans)
  have hr : (start o id h expired).1 = ⟨b, id, false⟩ := by
    rw [start_fst, hrole, hb]
    rfl
  have hanswers := fetchAll_answers (start o id h expired).1 steps
  rw [hr] at hanswers
  refine ⟨o.chooseWith_tracedProbe ans, hrole, ?_, ?_, ?_, ?_⟩
  · rw [hr, hb]
  · rw [start_closed, hrole]
  · rw [hr]
    exact hanswers
  · rw [hr]
    exact alerts_eq_failureRuns hanswers

end Resolver

end TelemetryBridge
