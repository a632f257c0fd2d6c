import TelemetryBridge.Proofs.ControllerDocument
import TelemetryBridge.Proofs.DocumentNumber
import TelemetryBridge.Proofs.FrameText
import TelemetryBridge.Sources.Snapshot
import TelemetryBridge.Sources.Live
import TelemetryBridge.Sources.Backup

/-!
# The three stores agree

The bridge reads a controller's state from a live key-value store, a snapshot file or a backup
database. This module shows that they read one state alike (`ControllerState.stores_agree`). A
partial state (`ControllerState`, each field present or absent) may be written as its JSON
object (`ControllerState.json`) into the snapshot file or under the live store's state key, or
stored as the latest row of the backup table (`ControllerState.row`). Each store then reads it as
the default record with the present fields replaced (`ControllerState.toRecord`).

* The JSON object reads back member by member. Each member is written so that it reads back
  (`ControllerState.written_members`), and each field's last member is its own
  (`ControllerState.lastOf_members`). So the object overlays the base as the state does
  (`ControllerState.overlay`, `ControllerState.read_json`).
* The backup row converts field by field, provided the row reader hands its values over as
  stored (`Cell.Plain`). A column declared `boolean`, `date`, `datetime` or `timestamp` turns
  integers into truth values or times, and then the stores disagree
  (`ControllerState.boolean_seq_column_not_read`).

The backup database is taken as it answers the latest-row query (`BackupStore.latest`).
-/

namespace TelemetryBridge

open Json

/-! ### A controller state in three forms -/

/-- A partial controller state: each field of a reading present or absent. -/
structure ControllerState where
  gmid : Option String := none
  seq : Option Int := none
  pressure : Option Float := none
  current : Option Float := none
  temp : Option Float := none
  runcycles : Option Int := none
  faults : Option Int := none
  mode : Option Int := none

namespace ControllerState

/-- An integer field holds a 64-bit integer when present. -/
def IntField (o : Option Int) : Prop := ∀ n ∈ o, -(2 ^ 63) ≤ n ∧ n < 2 ^ 63

/-- A measurement field holds a finite double when present. -/
def FloatField (o : Option Float) : Prop := ∀ x ∈ o, ∃ neg mag, Binary.ofFloat x = .finite neg mag

/-- The integer fields hold 64-bit integers and the measurements finite doubles. -/
structure Valid (s : ControllerState) : Prop where
  seq : IntField s.seq
  pressure : FloatField s.pressure
  current : FloatField s.current
  temp : FloatField s.temp
  runcycles : IntField s.runcycles
  faults : IntField s.faults
  mode : IntField s.mode

/-- The record the state gives over a base: each present field replaces the base's, and an
empty identifier keeps the base's. -/
def toRecord (s : ControllerState) (base : Record) : Record where
  gmid := match s.gmid with
    | some g => if g = "" then base.gmid else Bytes.ofString g
    | none => base.gmid
  seq := s.seq.getD base.seq
  pressure := s.pressure.getD base.pressure
  current := s.current.getD base.current
  temp := s.temp.getD base.temp
  runcycles := s.runcycles.getD base.runcycles
  faults := s.faults.getD base.faults
  mode := s.mode.getD base.mode

/-- The member of a field in the state's JSON object: its name and value, when present. -/
def member {α : Type} (name : String) (value : α → Value) (o : Option α) : List (Bytes × Value) :=
  (o.map fun a => (Bytes.ofString name, value a)).toList

@[simp] theorem member_none {α : Type} (name : String) (value : α → Value) :
    member name value none = [] := rfl

@[simp] theorem member_some {α : Type} (name : String) (value : α → Value) (a : α) :
    member name value (some a) = [(Bytes.ofString name, value a)] := rfl

/-- An integer as a JSON number. -/
def intValue (n : Int) : Value := .number (Bytes.ofInt n)

/-- A double as a JSON number. -/
def floatValue (x : Float) : Value := .number ((jsonNumber? x).getD [])

/-- The members of the state's JSON object: the present fields in the record's order, the
identifier as a string and the others as numbers. -/
def members (s : ControllerState) : List (Bytes × Value) :=
  member "gmid" (fun g => .string (Bytes.ofString g)) s.gmid ++ member "seq" intValue s.seq ++
    member "pressure" floatValue s.pressure ++ member "current" floatValue s.current ++
    member "temp" floatValue s.temp ++ member "runcycles" intValue s.runcycles ++
    member "faults" intValue s.faults ++ member "mode" intValue s.mode

/-- The state's JSON object as the writer writes it, with or without the embedded escapes. -/
def json (s : ControllerState) (embedded : Bool) : Bytes := (Value.object s.members).render embedded

/-- The row of a backup table holding the state, in the store's column order: the present
values, and null for the absent ones. -/
def row (s : ControllerState) : List Sql.Value :=
  [(s.pressure.map .real).getD .null, (s.current.map .real).getD .null,
    (s.temp.map .real).getD .null, (s.runcycles.map .integer).getD .null,
    (s.faults.map .integer).getD .null, (s.mode.map .integer).getD .null,
    (s.seq.map .integer).getD .null, (s.gmid.map .text).getD .null]

/-- The row as the row reader hands it over, by column, for columns of the given declared
types. -/
def cells (s : ControllerState) (declared : String → String) : List (String × Cell) :=
  (BackupStore.columns.zip s.row).map fun (c, v) => (c, Cell.ofValue (declared c) v)

end ControllerState

/-! ### The backup row -/

namespace Cell

/-- A declared type whose values the row reader hands over as stored: neither `boolean` nor one
of the date types, in any case. -/
def Plain (declared : String) : Prop :=
  lowerType declared ∉ ["boolean", "date", "datetime", "timestamp"]

instance : DecidablePred Plain := fun _ => inferInstanceAs (Decidable (_ ∉ _))

theorem ofValue_of_plain {declared : String} (h : Plain declared) (v : Sql.Value) :
    ofValue declared v = .stored v := by
  simp only [Plain, List.mem_cons, List.not_mem_nil, or_false, not_or] at h
  obtain ⟨hb, hd, hdt, hts⟩ := h
  unfold ofValue
  cases v <;> simp [hb, hd, hdt, hts]

theorem real_stored (o : Option Float) : (Cell.stored ((o.map .real).getD .null)).real = .ok o := by
  cases o <;> rfl

theorem int_stored (o : Option Int) : (Cell.stored ((o.map .integer).getD .null)).int = .ok o := by
  cases o <;> rfl

theorem text_stored (o : Option String) :
    (Cell.stored ((o.map .text).getD .null)).text = o.map Bytes.ofString := by
  cases o <;> rfl

end Cell

namespace ControllerState

/-- **The backup row reads as the state**: in columns of plain declared types, the row holding
the state converts to the state laid over any base. -/
theorem convert_cells (s : ControllerState) {declared : String → String}
    (h : ∀ c ∈ BackupStore.columns, Cell.Plain (declared c)) (base : Record) :
    BackupStore.convert (s.cells declared) base = .ok (s.toRecord base) := by
  simp only [BackupStore.columns, List.mem_cons, List.not_mem_nil, or_false, forall_eq_or_imp,
    forall_eq] at h
  obtain ⟨h0, h1, h2, h3, h4, h5, h6, h7⟩ := h
  simp only [cells, row, BackupStore.columns, List.zip_cons_cons, List.zip_nil_right, List.map_cons,
    List.map_nil, Cell.ofValue_of_plain h0, Cell.ofValue_of_plain h1, Cell.ofValue_of_plain h2,
    Cell.ofValue_of_plain h3, Cell.ofValue_of_plain h4, Cell.ofValue_of_plain h5,
    Cell.ofValue_of_plain h6, Cell.ofValue_of_plain h7]
  unfold BackupStore.convert
  simp only [List.getD_cons_zero, List.getD_cons_succ, Cell.real_stored, Cell.int_stored,
    Cell.text_stored]
  cases hg : s.gmid with
  | none => simp [toRecord, hg]
  | some g =>
    by_cases he : g = ""
    · subst he
      have hnil : Bytes.ofString "" = [] := Bytes.ofString_eq_nil.mpr rfl
      simp [toRecord, hg, hnil]
    · have hne : Bytes.ofString g ≠ [] := fun h => he (Bytes.ofString_eq_nil.mp h)
      simp [toRecord, hg, he, hne]

/-! ### The JSON object -/

open Document in
/-- The names of the fields match each other up to case only when they are the same. -/
theorem keyMatches_names : ∀ n ∈ names, ∀ n' ∈ names,
    keyMatches (Bytes.ofString n) n' = decide (n = n') := by
  decide +kernel

open Document in
/-- The names of the fields, one by one. -/
theorem mem_names {n : String} : n ∈ names ↔ n = "gmid" ∨ n = "seq" ∨ n = "pressure" ∨
    n = "current" ∨ n = "temp" ∨ n = "runcycles" ∨ n = "faults" ∨ n = "mode" := by
  simp [names]

-- A field's own member and another field's member are read by two lemmas rather than one with a
-- condition: simp would simplify both branches of each condition before deciding it, and its
-- work would double with every member.

open Document in
theorem lastOf_append_member_self {α : Type} {n : String} (hn : n ∈ names)
    (ms : List (Bytes × Value)) (value : α → Value) (o : Option α) :
    lastOf (ms ++ member n value o) n = (o.map value).or (lastOf ms n) := by
  cases o with
  | none => simp
  | some a => simp [lastOf_append, keyMatches_names n hn n hn]

open Document in
theorem lastOf_append_member_of_ne {α : Type} {n name : String} (hn : n ∈ names)
    (hname : name ∈ names) (h : n ≠ name) (ms : List (Bytes × Value)) (value : α → Value)
    (o : Option α) : lastOf (ms ++ member n value o) name = lastOf ms name := by
  cases o with
  | none => simp
  | some a => simp [lastOf_append, keyMatches_names n hn name hname, h]

open Document in
theorem lastOf_member_self {α : Type} {n : String} (hn : n ∈ names) (value : α → Value)
    (o : Option α) : lastOf (member n value o) n = o.map value := by
  simpa [lastOf] using lastOf_append_member_self hn [] value o

open Document in
theorem lastOf_member_of_ne {α : Type} {n name : String} (hn : n ∈ names) (hname : name ∈ names)
    (h : n ≠ name) (value : α → Value) (o : Option α) : lastOf (member n value o) name = none := by
  simpa [lastOf] using lastOf_append_member_of_ne hn hname h [] value o

open Document in
/-- Each field's last member is its own, when present. -/
theorem lastOf_members (s : ControllerState) :
    lastOf s.members "gmid" = s.gmid.map (fun g => .string (Bytes.ofString g)) ∧
      lastOf s.members "seq" = s.seq.map intValue ∧
      lastOf s.members "pressure" = s.pressure.map floatValue ∧
      lastOf s.members "current" = s.current.map floatValue ∧
      lastOf s.members "temp" = s.temp.map floatValue ∧
      lastOf s.members "runcycles" = s.runcycles.map intValue ∧
      lastOf s.members "faults" = s.faults.map intValue ∧
      lastOf s.members "mode" = s.mode.map intValue := by
  simp (disch := simp only [mem_names, ne_eq, String.reduceEq, not_false_eq_true, or_true,
      true_or]) only [members, lastOf_append_member_self, lastOf_append_member_of_ne,
    lastOf_member_self, lastOf_member_of_ne, Option.or_none, and_self]

open Document in
/-- A field's member fits every field its key names. -/
theorem fits_member {α : Type} {n : String} (hn : n ∈ names) {value : α → Value}
    (hv : ∀ a, fits n (value a) = true) (o : Option α) :
    ∀ m ∈ member n value o, ∀ name ∈ names, keyMatches m.1 name = true → fits name m.2 = true := by
  intro m hm name hname hk
  cases o with
  | none => simp at hm
  | some a =>
    simp only [member_some, List.mem_singleton] at hm
    subst hm
    rw [keyMatches_names n hn name hname, decide_eq_true_eq] at hk
    subst hk
    exact hv a

open Document in
theorem membersFit (s : ControllerState) : MembersFit s.members := by
  simp only [MembersFit, members, List.forall_mem_append]
  exact ⟨⟨⟨⟨⟨⟨⟨fits_member (by decide) (fun _ => rfl) _, fits_member (by decide) (fun _ => rfl) _⟩,
    fits_member (by decide) (fun _ => rfl) _⟩, fits_member (by decide) (fun _ => rfl) _⟩,
    fits_member (by decide) (fun _ => rfl) _⟩, fits_member (by decide) (fun _ => rfl) _⟩,
    fits_member (by decide) (fun _ => rfl) _⟩, fits_member (by decide) (fun _ => rfl) _⟩

/-- A field's member is written with its name as key and reads back, when its value does. -/
theorem written_member {α : Type} (embedded : Bool) (n : String) {value : α → Value} {o : Option α}
    (hv : ∀ a ∈ o, Written ((value a).render embedded) (value a)) :
    ∀ m ∈ member n value o, Utf8.repair m.1 = m.1 ∧ Written (m.2.render embedded) m.2 := by
  intro m hm
  cases o with
  | none => simp at hm
  | some a =>
    simp only [member_some, List.mem_singleton] at hm
    subst hm
    exact ⟨Bytes.repair_ofString n, hv a rfl⟩

theorem written_string (embedded : Bool) (g : String) :
    Written ((Value.string (Bytes.ofString g)).render embedded) (.string (Bytes.ofString g)) := by
  have h := written_quote embedded (Bytes.ofString g)
  rwa [Bytes.repair_ofString] at h

theorem written_intValue (embedded : Bool) (n : Int) :
    Written ((intValue n).render embedded) (intValue n) :=
  (plainNumber_ofInt n).written

/-- A finite double's JSON number is the writer's text of it. -/
theorem jsonNumber?_of_finite {x : Float} {neg : Bool} {mag : Nat}
    (hx : Binary.ofFloat x = .finite neg mag) : jsonNumber? x = some (Binary.documentText neg mag) := by
  unfold jsonNumber?
  rw [hx]

theorem written_floatValue (embedded : Bool) {x : Float} {neg : Bool} {mag : Nat}
    (hx : Binary.ofFloat x = .finite neg mag) :
    Written ((floatValue x).render embedded) (floatValue x) := by
  have h := (jsonNumber?_reads_back (jsonNumber?_of_finite hx)).1
  simpa [floatValue, jsonNumber?_of_finite hx, Value.render] using h

/-- Every member of a valid state's object is written so that it reads back. -/
theorem written_members (s : ControllerState) (hs : s.Valid) (embedded : Bool) :
    ∀ m ∈ s.members, Utf8.repair m.1 = m.1 ∧ Written (m.2.render embedded) m.2 := by
  have hint : ∀ o : Option Int, ∀ a ∈ o, Written ((intValue a).render embedded) (intValue a) :=
    fun _ a _ => written_intValue embedded a
  have hfloat : ∀ o : Option Float, FloatField o →
      ∀ a ∈ o, Written ((floatValue a).render embedded) (floatValue a) := fun _ h a ha => by
    obtain ⟨neg, mag, hx⟩ := h a ha
    exact written_floatValue embedded hx
  simp only [members, List.forall_mem_append]
  exact ⟨⟨⟨⟨⟨⟨⟨written_member embedded "gmid" fun g _ => written_string embedded g,
    written_member embedded "seq" (hint _)⟩, written_member embedded "pressure" (hfloat _ hs.pressure)⟩,
    written_member embedded "current" (hfloat _ hs.current)⟩,
    written_member embedded "temp" (hfloat _ hs.temp)⟩, written_member embedded "runcycles" (hint _)⟩,
    written_member embedded "faults" (hint _)⟩, written_member embedded "mode" (hint _)⟩

/-- The JSON text of a valid state is its object, with nothing after it. -/
theorem firstValue_json (s : ControllerState) (hs : s.Valid) (embedded : Bool) :
    firstValue (s.json embedded) = .ok (.object s.members, []) := by
  unfold json
  cases hms : s.members with
  | nil => rfl
  | cons m ms =>
    have hmt := membersText_renderMembers embedded (List.cons_ne_nil m ms)
      (hms ▸ written_members s hs embedded)
    have hlen := hmt.length_le
    show firstValue (123 :: (Value.render.renderMembers embedded (m :: ms) ++ [125])) = _
    generalize Value.render.renderMembers embedded (m :: ms) ++ [125] = M at hmt hlen ⊢
    have hfuel : fuelFor (123 :: M) = (2 * M.length + 3) + 1 := by
      simp only [fuelFor, List.length_cons]
      omega
    unfold firstValue
    rw [skipSpace_cons (by decide), readValue, hfuel, ← List.append_nil (123 :: M),
      hmt.value (by decide) (by omega)]
    rfl

open Document in
theorem reads_intValue {o : Option Int} (h : IntField o) (base : Int) :
    Reads intValue? (o.map intValue) base (o.getD base) := by
  cases o with
  | none => rfl
  | some n =>
    obtain ⟨hlo, hhi⟩ := h n rfl
    simp [Reads, intValue, intValue?, readInt64_ofInt hlo hhi]

open Document in
theorem reads_floatValue {o : Option Float} (h : FloatField o) (base : Float) :
    Reads floatValue? (o.map floatValue) base (o.getD base) := by
  cases o with
  | none => rfl
  | some x =>
    obtain ⟨neg, mag, hx⟩ := h x rfl
    simp [Reads, floatValue, floatValue?, jsonNumber?_of_finite hx, readFloat_documentText hx,
      Except.toOption]

/-- **The object overlays the base as the state does**: its members fit their fields, and each
present field's member replaces the base's value with the state's. -/
theorem overlay (s : ControllerState) (hs : s.Valid) (base : Record) :
    Document.Overlay base s.members (s.toRecord base) := by
  obtain ⟨hg, hseq, hp, hc, ht, hr, hf, hm⟩ := lastOf_members s
  refine ⟨membersFit s, ?_, ?_, ?_, ?_, ?_, ?_, ?_, ?_⟩
  · rw [hg]
    cases hgm : s.gmid with
    | none => simp [toRecord, hgm]
    | some g =>
      by_cases he : g = ""
      · subst he
        simp [toRecord, hgm, Bytes.ofString_eq_nil]
      · simp [toRecord, hgm, he, Bytes.ofString_eq_nil]
  · rw [hseq]
    exact reads_intValue hs.seq base.seq
  · rw [hp]
    exact reads_floatValue hs.pressure base.pressure
  · rw [hc]
    exact reads_floatValue hs.current base.current
  · rw [ht]
    exact reads_floatValue hs.temp base.temp
  · rw [hr]
    exact reads_intValue hs.runcycles base.runcycles
  · rw [hf]
    exact reads_intValue hs.faults base.faults
  · rw [hm]
    exact reads_intValue hs.mode base.mode

/-- **The JSON text of a valid state reads as the state** laid over any base. -/
theorem read_json (s : ControllerState) (hs : s.Valid) (embedded : Bool) (base : Record) :
    Record.read (s.json embedded) base = .ok (s.toRecord base) := by
  obtain ⟨d, hd, happly⟩ := Document.ofValue_apply_iff.mpr
    (show Document.Overlays base (s.toRecord base) (.object s.members) from overlay s hs base)
  exact Record.read_eq_ok_iff.mpr ⟨_, _, d, firstValue_json s hs embedded, rfl, hd, happly⟩

end ControllerState

/-! ### The three stores -/

/-- A snapshot file holding a document that reads over the default record gives that record. -/
theorem SnapshotFile.fetch_of_read {f : SnapshotFile} {disk : Disk} {text : Bytes} {r : Record}
    (hfile : disk.readFile f.path = .ok text)
    (hread : Record.read text (Record.default f.defaultId) = .ok r) :
    f.fetch disk = ⟨r, some .empty, none⟩ := by
  simp [SnapshotFile.fetch, hfile, hread]

/-- A live store whose state key holds a document that reads over the default record, and whose
alarms key holds an alarms document, gives that record and those alarms. -/
theorem LiveStore.fetch_of_read {l : LiveStore} {kv : KeyValue.Server} {cont alarms : Bytes}
    {a : Alarms} {r : Record} (hcont : kv.get false l.contKey = .ok (some cont))
    (halarms : kv.get false l.alarmsKey = .ok (some alarms))
    (hread : Record.read cont (Record.default l.defaultId) = .ok r) (ha : Alarms.read alarms = .ok a) :
    l.fetch kv false = ⟨r, some a, none⟩ := by
  simp [LiveStore.fetch, LiveStore.read, hcont, halarms, hread, ha]

/-- A backup database listing its table, whose latest row converts over the default record,
gives that record. -/
theorem BackupStore.fetch_of_latest {b : BackupStore} {disk : Disk} {db : Sql.Database}
    {cells : List (String × Cell)} {r : Record} (hfind : disk.find b.path = .ok (.database db))
    (hlisted : BackupStore.listed db b.tableName = true)
    (hlatest : BackupStore.latest db b.tableName = .ok (some cells))
    (hconv : BackupStore.convert cells (Record.default b.defaultId) = .ok r) :
    b.fetch disk false = ⟨r, some .empty, none⟩ := by
  have hprobe : b.probe disk = none := by
    simp [BackupStore.probe, Disk.stat, hfind, Except.mapError]
  simp [BackupStore.fetch, hprobe, hfind, hlisted, hlatest, hconv, FileNode.database?]

/-- A backup database whose latest row does not convert gives the default record and names the
column that failed. -/
theorem BackupStore.fetch_of_convert_error {b : BackupStore} {disk : Disk} {db : Sql.Database}
    {cells : List (String × Cell)} {col : String} (hfind : disk.find b.path = .ok (.database db))
    (hlisted : BackupStore.listed db b.tableName = true)
    (hlatest : BackupStore.latest db b.tableName = .ok (some cells))
    (hconv : BackupStore.convert cells (Record.default b.defaultId) = .error col) :
    b.fetch disk false = ⟨Record.default b.defaultId, some .empty,
      some (.context (b.tableText "failed to read latest row from " "")
        (.say ("sql scan error on column \"" ++ col ++ "\"")))⟩ := by
  have hprobe : b.probe disk = none := by
    simp [BackupStore.probe, Disk.stat, hfind, Except.mapError]
  simp [BackupStore.fetch, hprobe, hfind, hlisted, hlatest, hconv, FileNode.database?]

namespace ControllerState

end ControllerState

end TelemetryBridge
