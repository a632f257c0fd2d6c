import TelemetryBridge.Sql.Check

/-!
# Where tables live

A connection sees two schemas, the file's (`main`) and its own temporary one (`temp`). A name is
looked up in the temporary schema first. This module finds tables, views, indexes and triggers
by name in the schema that holds them, stores changed tables back there, and keeps the
**sequences** of `AUTOINCREMENT` tables:

* each schema that holds such a table has a table `sqlite_sequence (name, seq)`; the sequence of
  a table is the `seq` of the first row naming it (`0` without one);
* a new row id is one more than the largest in use (`1` for an empty table); after the largest
  possible id an unused positive one is taken instead, except that a table with a sequence is
  then full, and so is one whose sequence reached the largest id; with a sequence the new id is
  also above the sequence;
* a row id above the sequence raises it, in the row naming the table or in a new row.

Main definitions: `Sql.Database.table?`, `Sql.Database.putTable`, `Sql.Table.newRowid`,
`Sql.Database.raiseSequence`.
-/

namespace TelemetryBridge

namespace Sql

/-- The smallest positive id missing from ids in ascending order. -/
def firstFree (ids : List Int) : Int := ids.foldl (fun k id => if id == k then k + 1 else k) 1

/-- A value read as a whole number: a double cut toward zero, a text by its leading whole
number (saturated to 64 bits), null as `0`. -/
def Value.wholeNumber : Value → Int
  | .null => 0
  | .integer n => n
  | .real x => realToInt x
  | .text s => (leadingInteger s).1
  | .blob b => (leadingInteger (Value.bytesText b)).1

namespace Database

/-- The schema of the file or the temporary one. -/
def schema (db : Database) (temp : Bool) : Schema := if temp then db.temp else db.main

/-- The database with one of its schemas replaced. -/
def withSchema (db : Database) (temp : Bool) (s : Schema) : Database :=
  if temp then { db with temp := s } else { db with main := s }

/-- Whether the temporary schema holds the table or view of a name (none when neither does). -/
def home? (db : Database) (n : String) : Option Bool :=
  if (db.temp.table? n).isSome || (db.temp.view? n).isSome then some true
  else if (db.main.table? n).isSome || (db.main.view? n).isSome then some false
  else none

/-- The table of a name. -/
def table? (db : Database) (n : String) : Option Table :=
  match db.named? n with
  | some (.table t) => some t
  | _ => none

/-- Stores a changed table in the schema that holds it. -/
def putTable (db : Database) (t : Table) : Database :=
  match db.home? t.name with
  | some temp => db.withSchema temp ((db.schema temp).store t)
  | none => db

/-- The indexes of a table, in the order uniqueness is checked. -/
def indexesOf (db : Database) (table : String) : List Index :=
  match db.home? table with
  | some temp => (db.schema temp).indexesOf table
  | none => []

/-- The triggers of a table or view, in the order they fire: temporary triggers on a table of
the file first, then the table's own, newest first. -/
def triggersOf (db : Database) (table : String) : List Trigger :=
  match db.home? table with
  | some true => (db.temp.triggersOf table).reverse
  | some false => (db.temp.triggersOf table).reverse ++ (db.main.triggersOf table).reverse
  | none => []

/-- The index of a name, the temporary schema first. -/
def index? (db : Database) (n : String) : Option (Bool × Index) :=
  match db.temp.index? n with
  | some i => some (true, i)
  | none => (db.main.index? n).map fun i => (false, i)

/-- The trigger of a name, the temporary schema first. -/
def trigger? (db : Database) (n : String) : Option (Bool × Trigger) :=
  match db.temp.trigger? n with
  | some t => some (true, t)
  | none => (db.main.trigger? n).map fun t => (false, t)

/-- Whether a row of the sequence table names a table. -/
def namesTable (name : String) (r : Row) : Bool :=
  match r.values.getD 0 .null with
  | .text n => n == name
  | _ => false

/-- The sequence of a table in the schema that holds it. -/
def sequenceOf (db : Database) (name : String) : Int :=
  match db.home? name with
  | some temp =>
    match (db.schema temp).table? sequenceTable with
    | some t =>
      match t.rows.find? (namesTable name) with
      | some r => (r.values.getD 1 .null).wholeNumber
      | none => 0
    | none => 0
  | none => 0

/-- Raises the sequence of a table to a row id above it. -/
def raiseSequence (db : Database) (name : String) (rowid : Int) : Database :=
  if rowid ≤ db.sequenceOf name then db
  else
    match db.home? name with
    | some temp =>
      let s := db.schema temp
      match s.table? sequenceTable with
      | some t =>
        let t := match t.rows.find? (namesTable name) with
          | some r => t.place ⟨r.rowid, [.text name, .integer rowid]⟩
          | none =>
            let id := match t.maxRowid with
              | some m => m + 1
              | none => 1
            t.place ⟨id, [.text name, .integer rowid]⟩
        db.withSchema temp (s.store t)
      | none => db
    | none => db

/-- Rewrites or removes the rows of a schema's sequence table that name a table. -/
def editSequences (db : Database) (temp : Bool) (name : String) (f : Row → Option Row) :
    Database :=
  let s := db.schema temp
  match s.table? sequenceTable with
  | some t =>
    let rows := t.rows.filterMap fun r => if namesTable name r then f r else some r
    db.withSchema temp (s.store { t with rows })
  | none => db

end Database

namespace Table

/-- The id of a new row: one more than the largest in use (`1` in an empty table), or after the
largest possible id an unused positive one. With a sequence (of an `AUTOINCREMENT` table) it is
also above the sequence, and the largest possible id, used or in the sequence, leaves no room. -/
def newRowid (t : Table) (seq : Option Int) : Except Fault Int :=
  let top := t.maxRowid
  let exhausted := match top with
    | some m => m ≥ maxInt
    | none => false
  let next : Int := match top with
    | some m => m + 1
    | none => 1
  match seq with
  | some q =>
    if q ≥ maxInt || exhausted then .error (Fault.of "database or disk is full")
    else .ok (max next (q + 1))
  | none =>
    let ids := (t.rows.map (·.rowid)).mergeSort (· ≤ ·)
    .ok (if exhausted then firstFree ids else next)

end Table

end Sql

end TelemetryBridge
