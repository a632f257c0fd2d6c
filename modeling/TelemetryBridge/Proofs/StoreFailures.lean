import TelemetryBridge.Sources.Backend

/-! # How the stores fail

Each of the three stores (the snapshot file, the live store, the backup database) reads in
stages, and each stage can fail. This file shows two things of every read, whatever the state of
the store:

* a failed read gives the default record of the store and no alarms, so nothing decoded before
  the failing stage survives it (`Reading.Settled`);
* the failure says the store had nothing to read (it reaches `Failure.noData`; see
  `Failure.nothingToRead`) exactly when the file is missing (the path names nothing), a key is
  missing on a server that answers, or the database lists no such table or its latest-row query
  finds no row.

A stored document that is empty or holds only whitespace is not among these: the store is there
and holds a text, which fails to decode at its end (`SnapshotFile.blank_document_fails_at_end`).

Main statement: `stores_fail_to_default`.
-/

namespace TelemetryBridge

/-- Whether a failure says that the store had nothing to read. -/
def Failure.nothingToRead (f : Failure) : Bool := f.reaches (· matches .noData)

/-- Whether a reading failed because the store had nothing to read. -/
def Reading.nothingToRead (r : Reading) : Bool := r.failure.any Failure.nothingToRead

/-- A reading as the stores give it: alarms are always given, and a failed read gives the
default record of the store and no alarms. -/
def Reading.Settled (r : Reading) (defaultId : Bytes) : Prop :=
  r.alarms.isSome ∧
    ∀ f, r.failure = some f → r.record = Record.default defaultId ∧ r.alarms = some Alarms.empty

namespace Failure

@[simp] theorem nothingToRead_noData : Failure.nothingToRead .noData = true := rfl

@[simp] theorem nothingToRead_context (w : Bytes) (c : Failure) :
    (context w c).nothingToRead = c.nothingToRead := rfl

@[simp] theorem nothingToRead_text (m : Bytes) : (text m).nothingToRead = false := rfl

@[simp] theorem nothingToRead_endOfInput : Failure.nothingToRead .endOfInput = false := rfl

@[simp] theorem nothingToRead_os (op : String) (p : Bytes) (e : OsError) :
    (os op p e).nothingToRead = false := rfl

@[simp] theorem nothingToRead_say (s : String) : (say s).nothingToRead = false := rfl

@[simp] theorem nothingToRead_within (w : String) (c : Failure) :
    (within w c).nothingToRead = c.nothingToRead := rfl

/-- A failed system call on a path is a missing path exactly when the system said no entry. -/
theorem kind_os (op : String) (p : Bytes) (e : OsError) :
    (os op p e).kind = if e = .noEntry then .notExist else .other := by
  cases e <;> rfl

end Failure

@[simp] theorem Json.DecodeError.nothingToRead_failure (e : Json.DecodeError) :
    e.failure.nothingToRead = false := by
  cases e <;> rfl

@[simp] theorem DocumentError.nothingToRead_failure (e : DocumentError) :
    e.failure.nothingToRead = false := by
  cases e with
  | decode e => simp [DocumentError.failure]
  | trailing => rfl
  | number f e => cases e <;> simp [DocumentError.failure]

/-! ### Files -/

/-- A failure relabelled by `Except.mapError`. -/
theorem mapError_error {ε ε' α : Type} (f : ε → ε') (e : ε) :
    (Except.error e : Except ε α).mapError f = .error (f e) := rfl

/-- A result passed through `Except.mapError`. -/
theorem mapError_ok {ε ε' α : Type} (f : ε → ε') (a : α) :
    (Except.ok a : Except ε α).mapError f = .ok a := rfl

namespace Disk

variable {d : Disk} {p : Bytes}

/-- Reading a file fails where opening fails, and at a directory. -/
theorem readFile_eq_error {f : Failure} :
    d.readFile p = .error f ↔
      (∃ e, d.find p = .error e ∧ f = .os "open" p e) ∨
        (d.find p = .ok .dir ∧ f = .os "read" p .isDirectory) := by
  unfold readFile Disk.open
  cases h : d.find p with
  | error e => simp [mapError_error, eq_comm]
  | ok n => cases n <;> simp [mapError_ok, FileNode.content, eq_comm]

/-- A read fails as a missing path exactly when the path names nothing. -/
theorem readFile_notExist_iff :
    (∃ f, d.readFile p = .error f ∧ f.kind = .notExist) ↔ d.find p = .error .noEntry := by
  simp only [readFile_eq_error]
  constructor
  · rintro ⟨f, ⟨e, he, rfl⟩ | ⟨-, rfl⟩, hk⟩
    · rw [Failure.kind_os] at hk
      split at hk
      · next hne => rw [he, hne]
      · cases hk
    · rw [Failure.kind_os] at hk
      cases hk
  · intro h
    exact ⟨_, .inl ⟨_, h, rfl⟩, by rw [Failure.kind_os]; rfl⟩

end Disk

/-! ### The snapshot file -/

namespace SnapshotFile

variable (s : SnapshotFile) (disk : Disk)

theorem fetch_settled : (s.fetch disk).Settled s.defaultId := by
  unfold fetch
  dsimp only
  split
  · split <;> simp [Reading.Settled]
  · split <;> simp [Reading.Settled]

/-- **The snapshot has nothing to read** exactly when its path names nothing. -/
theorem fetch_nothingToRead_iff :
    (s.fetch disk).nothingToRead = true ↔ disk.find s.path = .error .noEntry := by
  rw [← Disk.readFile_notExist_iff]
  unfold fetch
  dsimp only
  cases h : disk.readFile s.path with
  | error f =>
    -- only a missing path is reported as no data; every other failure of the read is passed on
    by_cases hk : f.kind = .notExist
    · simp [Reading.nothingToRead, hk]
    · have hf : f.nothingToRead = false := by
        rcases Disk.readFile_eq_error.mp h with ⟨e, -, rfl⟩ | ⟨-, rfl⟩ <;> rfl
      simp [Reading.nothingToRead, hk, hf]
  | ok doc =>
    dsimp only
    split <;> simp [Reading.nothingToRead]

end SnapshotFile

/-! ### The live store -/

namespace KeyValue.Server

variable {kv : Server} {expired : Bool} {k : Bytes}

theorem get_eq_ok_none :
    kv.get expired k = .ok none ↔ expired = false ∧ kv.up = true ∧ kv.lookup k = none := by
  unfold get
  cases expired <;> cases kv.up <;> simp
  split <;> simp_all

theorem get_eq_ok_some {v : Bytes} :
    kv.get expired k = .ok (some v) ↔
      expired = false ∧ kv.up = true ∧ kv.lookup k = some (.text v) := by
  unfold get
  cases expired <;> cases kv.up <;> simp
  split <;> simp_all

/-- A server's refusals never say that a key holds nothing. -/
theorem get_error_nothingToRead {f : Failure} (h : kv.get expired k = .error f) :
    f.nothingToRead = false := by
  unfold get at h
  split at h
  · cases h; rfl
  split at h
  · cases h; rfl
  split at h <;> cases h
  rfl

end KeyValue.Server

namespace LiveStore

/-- A read of a key fails as no data exactly when the server answers that the key holds
nothing. -/
theorem read_error_nothingToRead {kv : KeyValue.Server} {expired : Bool} {key : Bytes} {f : Failure}
    (h : read kv expired key = .error f) : f.nothingToRead = (kv.get expired key = .ok none) := by
  unfold read at h
  split at h
  · cases h
  · next hget => cases h; simp [hget]
  · next f' hget =>
    cases h
    simp [hget, KeyValue.Server.get_error_nothingToRead hget]

theorem read_eq_ok {kv : KeyValue.Server} {expired : Bool} {key v : Bytes} :
    read kv expired key = .ok v ↔ kv.get expired key = .ok (some v) := by
  unfold read
  split <;> simp_all

variable (l : LiveStore) (kv : KeyValue.Server) (expired : Bool)

theorem fetch_settled : (l.fetch kv expired).Settled l.defaultId := by
  unfold fetch
  dsimp only
  split
  · simp [Reading.Settled]
  · simp [Reading.Settled]
  · split
    · simp [Reading.Settled]
    · split <;> simp [Reading.Settled]

/-- The live store has nothing to read exactly when the server answers that the state key holds
nothing, or that the state key holds a text and the alarms key nothing. -/
theorem fetch_nothingToRead_iff_get :
    (l.fetch kv expired).nothingToRead = true ↔
      kv.get expired l.contKey = .ok none ∨
        (∃ v, kv.get expired l.contKey = .ok (some v)) ∧ kv.get expired l.alarmsKey = .ok none := by
  unfold fetch
  dsimp only
  split
  -- the state key's read fails: its failure decides
  · next f hcont =>
    have hc := read_error_nothingToRead hcont
    simp only [Reading.nothingToRead, Option.any_some, hc]
    constructor
    · exact .inl
    · rintro (h | ⟨⟨v, hv⟩, -⟩)
      · exact h
      · exact absurd (read_eq_ok.mpr hv) (by rw [hcont]; simp)
  -- the state key is read and the alarms key's read fails: that failure decides
  · next cont f hcont halarms =>
    have ha := read_error_nothingToRead halarms
    have hc := read_eq_ok.mp hcont
    simp only [Reading.nothingToRead, Option.any_some, ha, hc]
    simp
  -- both keys are read: decoding never fails for lack of data
  · next cont alarms hcont halarms =>
    have hc := read_eq_ok.mp hcont
    have ha := read_eq_ok.mp halarms
    have hright : ¬(kv.get expired l.contKey = .ok none ∨
        (∃ v, kv.get expired l.contKey = .ok (some v)) ∧ kv.get expired l.alarmsKey = .ok none) := by
      simp [hc, ha]
    split
    · simp [Reading.nothingToRead, hright]
    · split <;> simp [Reading.nothingToRead, hright]

/-- **The live store has nothing to read** exactly when the server answers in time and the state
key is missing, or the state key holds a text and the alarms key is missing. -/
theorem fetch_nothingToRead_iff :
    (l.fetch kv expired).nothingToRead = true ↔
      expired = false ∧ kv.up = true ∧ (kv.lookup l.contKey = none ∨
        (∃ v, kv.lookup l.contKey = some (.text v)) ∧ kv.lookup l.alarmsKey = none) := by
  rw [fetch_nothingToRead_iff_get]
  simp only [KeyValue.Server.get_eq_ok_none, KeyValue.Server.get_eq_ok_some]
  cases expired <;> cases kv.up <;> simp

end LiveStore

/-! ### The backup database -/

namespace BackupStore

variable (b : BackupStore) (disk : Disk) (expired : Bool)

/-- Probing finds the file, or fails as no data exactly when the path names nothing. -/
theorem probe_eq_none : b.probe disk = none ↔ ∃ n, disk.find b.path = .ok n := by
  unfold probe Disk.stat
  cases disk.find b.path with
  | error e => simp only [mapError_error]; split <;> simp
  | ok n => simp [mapError_ok]

theorem probe_nothingToRead {f : Failure} (h : b.probe disk = some f) :
    f.nothingToRead = (disk.find b.path = .error .noEntry) := by
  unfold probe Disk.stat at h
  cases hfind : disk.find b.path with
  | ok n => simp [hfind, mapError_ok] at h
  | error e =>
    simp only [hfind, mapError_error, Failure.kind_os] at h
    cases e <;> simp at h <;> subst h <;> simp

theorem fetch_settled : (b.fetch disk expired).Settled b.defaultId := by
  unfold fetch
  dsimp only
  split
  · simp [Reading.Settled]
  split
  · simp [Reading.Settled]
  split
  · simp [Reading.Settled]
  split
  · simp [Reading.Settled]
  split
  · simp [Reading.Settled]
  · simp [Reading.Settled]
  · split <;> simp [Reading.Settled]

/-- **The backup database has nothing to read** exactly when its path names nothing, or the file
opens as a database (in time) that lists no table of the store's name or whose latest-row query
finds no row. -/
theorem fetch_nothingToRead_iff :
    (b.fetch disk expired).nothingToRead = true ↔
      disk.find b.path = .error .noEntry ∨
        expired = false ∧ ∃ n db, disk.find b.path = .ok n ∧ n.database? = some db ∧
          (listed db b.tableName = false ∨ latest db b.tableName = .ok none) := by
  unfold fetch
  dsimp only
  split
  -- the file is not found: the probe's failure decides
  · next f hprobe =>
    have hf := probe_nothingToRead b disk hprobe
    have hnone : ¬∃ n, disk.find b.path = .ok n := fun h =>
      absurd ((probe_eq_none b disk).mpr h) (by rw [hprobe]; simp)
    simp only [Reading.nothingToRead, Option.any_some, hf]
    constructor
    · exact .inl
    · rintro (h | ⟨-, n, -, hn, -⟩)
      · exact h
      · exact absurd ⟨n, hn⟩ hnone
  · next hprobe =>
    obtain ⟨n, hn⟩ := (probe_eq_none b disk).mp hprobe
    split
    · next hexp => simp [Reading.nothingToRead, hn, hexp, Failure.deadlineExceeded]
    · next hexp =>
      simp only [Bool.not_eq_true] at hexp
      -- the file opens as a database or fails the read; an opened database is then asked for
      -- the table and its latest row
      split
      · next m hopen =>
        have hnot : n.database? = none := by
          rw [hn] at hopen
          cases n with
          | dir => rfl
          | file c => cases c <;> simp_all [FileNode.database?]
          | database db => simp [FileNode.database?] at hopen
        simp [Reading.nothingToRead, hn, hnot]
      · next db hopen =>
        have hdb : n.database? = some db := by
          rw [hn] at hopen
          cases n with
          | dir => simp at hopen
          | file c => cases c <;> simp_all [FileNode.database?]
          | database db => simpa [FileNode.database?] using hopen
        have hright : (disk.find b.path = .error .noEntry ∨ expired = false ∧
            ∃ n db, disk.find b.path = .ok n ∧ n.database? = some db ∧
              (listed db b.tableName = false ∨ latest db b.tableName = .ok none)) ↔
            listed db b.tableName = false ∨ latest db b.tableName = .ok none := by
          simp [hn, hdb, hexp]
        rw [hright]
        by_cases hl : listed db b.tableName = true
        · rcases hlat : latest db b.tableName with m | _ | cells
          · simp [Reading.nothingToRead, hl]
          · simp [Reading.nothingToRead, hl]
          · cases hconv : convert cells (Record.default b.defaultId) <;>
              simp [Reading.nothingToRead, hl, hconv]
        · simp [Reading.nothingToRead, hl]

end BackupStore

end TelemetryBridge
