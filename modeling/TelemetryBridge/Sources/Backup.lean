import TelemetryBridge.Sources.Reading
import TelemetryBridge.Files.Disk
import TelemetryBridge.Decimal.Layout
import TelemetryBridge.Time.Stamp

/-!
# The backup database

The backup store is the bridge's last source: a table of controller history in a database
file, of which the latest row is read. It has no alarms, and it is stale.

Probing asks whether the file exists, like the snapshot file. Fetching reads over the default
record, in this order:

1. the file must exist (else the store holds no data);
2. the file is opened as a database: a directory or a file that is not a database fails;
3. the table must be listed under exactly its name (else no data);
4. the latest row is the one with the greatest row id; each of the columns `pressure`,
   `current`, `temp`, `runcycles`, `faults`, `mode`, `seq`, `gmid` must exist, and so must
   the row id (a table without row ids fails);
5. an empty table holds no data;
6. the values are converted to the record's fields in that column order, and the first that
   cannot be converted fails the read. A null keeps the default, and so does an empty `gmid`.

The conversions are those of a row reader that hands over integers, doubles, texts and blobs
as they are stored, with two exceptions by the declared type (in any case). An integer in a
column declared `boolean` arrives as the truth of being positive. In a column declared `date`,
`datetime` or `timestamp` an integer arrives as a time in UTC, counted in seconds from the
epoch, or in milliseconds when its magnitude exceeds `10^12` (the nanoseconds wrapping to 64
bits); a text arrives as the timestamp it reads as (see `Stamp.read`) after one trailing `Z` is
dropped, or as the zero time when it reads as none. Then:

* a double field takes a double as it is, an integer as the nearest double, and anything else
  by reading its text as number text;
* an integer field takes an integer as it is, and anything else by reading its text (a double
  written shortest in general layout) as a decimal integer with an optional sign;
* the identifier takes the text of any value, a time written in RFC 3339 to the nanosecond;
* a time is no number.

Main definitions: `BackupStore`, `BackupStore.probe`, `BackupStore.fetch`.
-/

namespace TelemetryBridge

/-- A backup database file, its table and the identifier of its default record. -/
structure BackupStore where
  path : Bytes
  table : Bytes
  defaultId : Bytes := []
  deriving Inhabited

/-- A value as the row reader hands it over. -/
inductive Cell where
  | stored (v : Sql.Value)
  | flag (b : Bool)
  | time (t : Stamp)
  deriving Inhabited

namespace Cell

/-- The time an integer in a date column stands for: seconds from the epoch, or milliseconds
when its magnitude exceeds `10^12`, the nanoseconds then wrapping to 64 bits. -/
def timeOfCount (n : Int) : Stamp :=
  if n > 1000000000000 || n < -1000000000000 then
    { instant := ⟨(n * 1000000 + 2 ^ 63) % 2 ^ 64 - 2 ^ 63⟩ }
  else { instant := ⟨n * 1000000000⟩ }

/-- The time a text in a date column stands for, after one trailing `Z` is dropped: the zero
time when it is no timestamp. -/
def timeOfText (s : String) : Stamp :=
  let cs := s.toList
  let cs := if cs.getLast? == some 'Z' then cs.dropLast else cs
  (Stamp.read (String.ofList cs)).getD Stamp.zero

/-- A declared type in lower case as the row reader folds it: ASCII letters, and the two
letters outside ASCII whose lower case is an ASCII letter (dotted capital I, Kelvin sign). -/
def lowerType (declared : String) : String :=
  String.ofList (declared.toList.map fun c =>
    if 'A' ≤ c && c ≤ 'Z' then Char.ofNat (c.toNat + 32)
    else if c.toNat == 0x130 then 'i'
    else if c.toNat == 0x212A then 'k'
    else c)

/-- The cell of a stored value in a column of a declared type. -/
def ofValue (declared : String) (v : Sql.Value) : Cell :=
  let kind := lowerType declared
  let dated := kind == "date" || kind == "datetime" || kind == "timestamp"
  match v with
  | .integer n =>
    if dated then .time (timeOfCount n)
    else if kind == "boolean" then .flag (n > 0)
    else .stored v
  | .text s => if dated then .time (timeOfText s) else .stored v
  | v => .stored v

/-- A double written shortest in general layout, as the row reader writes it. -/
def generalText (x : Float) : Bytes :=
  match Binary.ofFloat x with
  | .finite neg mag => Binary.signed neg (Binary.decimal mag).general
  | _ => gaugeNumber x

/-- The text of a cell; `none` for null. -/
def text : Cell → Option Bytes
  | .stored .null => none
  | .stored (.integer n) => some (Bytes.ofInt n)
  | .stored (.real x) => some (generalText x)
  | .stored (.text s) => some (Bytes.ofString s)
  | .stored (.blob b) => some b
  | .flag b => some (Bytes.ofString (if b then "true" else "false"))
  | .time t => some (Bytes.ofString t.text)

/-- The cell as a double field: `none` for null, an error when it cannot be one. -/
def real : Cell → Except Unit (Option Float)
  | .stored .null => .ok none
  | .stored (.real x) => .ok (some x)
  | .stored (.integer n) => .ok (some (Binary.ofInt n).toFloat)
  | .time _ => .error ()
  | c =>
    match readFloat (c.text.getD []) with
    | .ok x => .ok (some x)
    | .error _ => .error ()

/-- The cell as an integer field: `none` for null, an error when it cannot be one. -/
def int : Cell → Except Unit (Option Int)
  | .stored .null => .ok none
  | .stored (.integer n) => .ok (some n)
  | .time _ => .error ()
  | c =>
    match readInt64 (c.text.getD []) with
    | .ok n => .ok (some n)
    | .error _ => .error ()

end Cell

namespace BackupStore

/-- The columns the store reads, in order. -/
def columns : List String :=
  ["pressure", "current", "temp", "runcycles", "faults", "mode", "seq", "gmid"]

/-- A name as a quoted identifier: in double quotes, each double quote in it written twice. -/
def quoteIdent (name : String) : String :=
  "\"" ++ String.join (name.toList.map fun c => if c == '"' then "\"\"" else c.toString) ++ "\""

/-- The query that reads the latest row of a table: the columns in order, from the table named
as a quoted identifier, by descending row id. -/
def latestQuery (table : String) : String :=
  "SELECT " ++ ", ".intercalate columns ++ " FROM " ++ quoteIdent table ++
    " ORDER BY rowid DESC LIMIT 1"

/-- The latest row of a table: each column's name and the cell of its value, by the declared
type of the result column; `none` when the table is empty. -/
def latest (db : Sql.Database) (table : String) : Except String (Option (List (String × Cell))) := do
  let rel ← db.query (latestQuery table)
  pure (rel.rows.head?.map fun r =>
    (rel.fields.zip r).map fun (f, v) => (f.name, Cell.ofValue f.declared v))

/-- Converts the cells of the latest row over a base record; the error names the first column
that cannot be converted. -/
def convert (cells : List (String × Cell)) (base : Record) : Except String Record := do
  let cell (i : Nat) : String × Cell := cells.getD i ("", .stored .null)
  let real (i : Nat) (dflt : Float) : Except String Float :=
    match (cell i).2.real with
    | .ok v => .ok (v.getD dflt)
    | .error _ => .error (cell i).1
  let int (i : Nat) (dflt : Int) : Except String Int :=
    match (cell i).2.int with
    | .ok v => .ok (v.getD dflt)
    | .error _ => .error (cell i).1
  let pressure ← real 0 base.pressure
  let current ← real 1 base.current
  let temp ← real 2 base.temp
  let runcycles ← int 3 base.runcycles
  let faults ← int 4 base.faults
  let mode ← int 5 base.mode
  let seq ← int 6 base.seq
  let gmid := match (cell 7).2.text with
    | some g => if g.isEmpty then base.gmid else g
    | none => base.gmid
  pure { gmid, seq, pressure, current, temp, runcycles, faults, mode }

/-- The name the store looks its table up by: the table's bytes as text, their UTF-8 repaired. -/
def tableName (b : BackupStore) : String := String.fromUTF8! ⟨(Utf8.repair b.table).toArray⟩

/-- Whether the main schema of a database lists a table of exactly this name. -/
def listed (db : Sql.Database) (table : String) : Bool :=
  db.main.entries.any fun e => e.kind == .table && e.name == table

/-- The table name as a context. -/
def tableText (b : BackupStore) (before after : String) : Bytes :=
  Bytes.ofString before ++ b.table ++ Bytes.ofString after

/-- Checks that the database file exists. -/
def probe (b : BackupStore) (disk : Disk) : Option Failure :=
  match disk.stat b.path with
  | .ok _ => none
  | .error f =>
    if f.kind == .notExist then some (.context (Bytes.ofString "backup store " ++ b.path) .noData)
    else some (.context (Bytes.ofString "stat backup store " ++ b.path) f)

/-- Reads the latest row over the default record; once the file is found, a query whose time
allowance has run out fails before the database is opened. -/
def fetch (b : BackupStore) (disk : Disk) (expired : Bool) : Reading :=
  let base := Record.default b.defaultId
  let fail (f : Failure) : Reading := ⟨base, some .empty, some f⟩
  let readFailed (m : String) : Reading :=
    fail (.context (b.tableText "failed to read latest row from " "") (.say m))
  match b.probe disk with
  | some f => fail f
  | none =>
    if expired then fail (.within "failed to query tables" .deadlineExceeded) else
    let db : Except String Sql.Database :=
      match disk.find b.path with
      | .ok .dir => .error "disk I/O error: is a directory"
      | .ok n => match n.database? with
        | some db => .ok db
        | none => .error "file is not a database"
      | .error e => .error ("unable to open database file: " ++ e.message)
    match db with
    | .error m => fail (.within "failed to query tables" (.say m))
    | .ok db =>
      let table := b.tableName
      if !listed db table then fail (.context (b.tableText "table " "") .noData)
      else
        match latest db table with
        | .error m => readFailed m
        | .ok none => fail (.context (b.tableText "table " " is empty") .noData)
        | .ok (some cells) =>
          match convert cells base with
          | .ok r => ⟨r, some .empty, none⟩
          | .error col => readFailed ("sql scan error on column \"" ++ col ++ "\"")

end BackupStore

end TelemetryBridge
