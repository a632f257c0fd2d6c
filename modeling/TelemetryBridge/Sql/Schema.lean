import TelemetryBridge.Sql.Syntax
import TelemetryBridge.Sql.Compare

/-!
# Schemas: tables, indexes, views and triggers

A database file holds one **schema**: its tables with their rows, the indexes over them, views
and triggers, and the **catalogue** (`sqlite_master`) that lists them all with the statement
text that made each. A connection adds a second, temporary schema (`temp`) that lives as long
as the connection.

* A **table** has columns, each with a declared type, the affinity read off it, a collation,
  a default expression, checks and the rule for nulls; its rows are kept in ascending order of
  row id (of primary key for a table without row ids). A single primary-key column declared
  `INTEGER` holds the row id itself.
* An **index** orders the rows of a table by some terms. A unique index is a rule: no two rows
  whose terms are all not null may agree on all of them. Uniqueness and primary-key
  constraints of a table are kept as such indexes (named `sqlite_autoindex_T_N`), which the
  catalogue lists without text.
* A **trigger** runs statements before, after or instead of a change of a table or view.

Main definitions: `Sql.Column`, `Sql.Table`, `Sql.Index`, `Sql.Schema`, `Sql.Entry`.
-/

namespace TelemetryBridge

namespace Sql

/-- A column of a table. -/
structure Column where
  name : String
  /-- The declared type as the catalogue keeps it (empty when none was written). -/
  declared : String := ""
  affinity : Affinity := .blob
  collation : Collation := .binary
  /-- The rule for nulls: none when the column may hold them. -/
  notNull : Option Conflict := none
  default : Option Expr := none
  /-- The column belongs to the primary key. -/
  primaryKey : Bool := false
  /-- The type of a column of a `STRICT` table. -/
  strictType : Option String := none
  /-- The expression of a generated column, and whether it is stored. -/
  generated : Option (Expr × Bool) := none
  deriving Inhabited

/-- A row: its id and its values in column order. -/
structure Row where
  rowid : Int
  values : List Value
  deriving Inhabited

/-- Why an index exists: made by `CREATE INDEX`, or kept for a uniqueness or primary-key
constraint. -/
inductive IndexOrigin where
  | created
  | unique
  | primary
  deriving Repr, DecidableEq, Inhabited

/-- An index of a table. -/
structure Index where
  name : String
  table : String
  unique : Bool
  terms : List IndexTerm
  filter : Option Expr := none
  conflict : Conflict := .abort
  origin : IndexOrigin := .created
  deriving Inhabited

/-- A table with its rows. -/
structure Table where
  name : String
  columns : List Column
  /-- The column that holds the row id. -/
  rowidColumn : Option Nat := none
  /-- The conflict rule of a row-id primary key. -/
  rowidConflict : Conflict := .abort
  withoutRowid : Bool := false
  strict : Bool := false
  autoincrement : Bool := false
  /-- Table checks, each with its name or text. -/
  checks : List (String × Expr) := []
  /-- The columns of the primary key in key order, with their collations and whether they
  descend: the order of the rows of a table without row ids. -/
  key : List (Nat × Collation × Bool) := []
  rows : List Row := []
  deriving Inhabited

/-- A view: a named query, with names for its columns when the definition gives them. -/
structure View where
  name : String
  columns : Option (List String)
  query : Query
  deriving Inhabited

/-- A trigger. -/
structure Trigger where
  name : String
  table : String
  timing : Timing
  event : Event
  whenever : Option Expr
  body : List Statement
  deriving Inhabited

/-- A row of the catalogue: the kind and name of an object, the table it belongs to, its root
page and the text of the statement that made it. -/
structure Entry where
  kind : ObjectKind
  name : String
  table : String
  rootpage : Int
  text : Option String
  deriving Inhabited

/-- The word the catalogue writes for a kind of object. -/
def ObjectKind.word : ObjectKind → String
  | .table => "table"
  | .index => "index"
  | .view => "view"
  | .trigger => "trigger"

/-- A schema: its objects and its catalogue, in the order the objects were made. -/
structure Schema where
  tables : List Table := []
  /-- Indexes, newest first except that those replacing rows on conflict come last: the order
  in which uniqueness is checked. -/
  indexes : List Index := []
  views : List View := []
  triggers : List Trigger := []
  entries : List Entry := []
  /-- The next root page to give. -/
  nextPage : Int := 2
  deriving Inhabited

/-- The name of the table that keeps the sequences of `AUTOINCREMENT` tables. -/
def sequenceTable : String := "sqlite_sequence"

/-- The names that stand for the row id of a table that has one. -/
def isRowidName (n : String) : Bool :=
  let k := nameKey n
  k == "ROWID" || k == "OID" || k == "_ROWID_"

namespace Table

/-- The position of a column. -/
def columnIndex (t : Table) (n : String) : Option Nat :=
  t.columns.findIdx? fun c => sameName c.name n

/-- A column by position. -/
def column (t : Table) (i : Nat) : Column := t.columns.getD i default

/-- The name of a column as constraint messages write it. -/
def qualified (t : Table) (i : Nat) : String := t.name ++ "." ++ (t.column i).name

/-- How two lists of key values compare, column by column under each column's collation and
direction. -/
def keyOrder : List (Nat × Collation × Bool) → List Value → List Value → Ordering
  | [], _, _ => .eq
  | (i, c, desc) :: rest, a, b =>
    match Value.order c (a.getD i .null) (b.getD i .null) with
    | .eq => keyOrder rest a b
    | o => if desc then o.swap else o

/-- How two rows are ordered: by row id, or by primary key in a table without row ids. -/
def rowOrder (t : Table) (a b : Row) : Ordering :=
  if t.withoutRowid then keyOrder t.key a.values b.values else compare a.rowid b.rowid

/-- Puts a row in its place, replacing the row of the same id. -/
def place (t : Table) (r : Row) : Table :=
  let rest := t.rows.filter (·.rowid != r.rowid)
  { t with rows := rest.filter (t.rowOrder · r == .lt) ++ [r] ++ rest.filter (t.rowOrder · r != .lt) }

/-- Removes a row by id. -/
def erase (t : Table) (rowid : Int) : Table :=
  { t with rows := t.rows.filter (·.rowid != rowid) }

/-- The row of an id. -/
def row? (t : Table) (rowid : Int) : Option Row := t.rows.find? (·.rowid == rowid)

/-- The largest row id in use. -/
def maxRowid (t : Table) : Option Int :=
  t.rows.foldl (fun m r => some (match m with
    | some x => max x r.rowid
    | none => r.rowid)) none

end Table

namespace Schema

/-- The table of a name, without regard to ASCII case. -/
def table? (s : Schema) (n : String) : Option Table := s.tables.find? fun t => sameName t.name n

/-- The view of a name. -/
def view? (s : Schema) (n : String) : Option View := s.views.find? fun v => sameName v.name n

/-- The index of a name. -/
def index? (s : Schema) (n : String) : Option Index := s.indexes.find? fun i => sameName i.name n

/-- The trigger of a name. -/
def trigger? (s : Schema) (n : String) : Option Trigger :=
  s.triggers.find? fun t => sameName t.name n

/-- Whether a table, view or index has this name. -/
def holdsName (s : Schema) (n : String) : Bool :=
  (s.table? n).isSome || (s.view? n).isSome || (s.index? n).isSome

/-- Replaces a table by its new version. -/
def store (s : Schema) (t : Table) : Schema :=
  { s with tables := s.tables.map fun u => if sameName u.name t.name then t else u }

/-- The indexes of a table in the order uniqueness is checked. -/
def indexesOf (s : Schema) (table : String) : List Index :=
  s.indexes.filter fun i => sameName i.table table

/-- The triggers of a table. -/
def triggersOf (s : Schema) (table : String) : List Trigger :=
  s.triggers.filter fun t => sameName t.table table

/-- Adds an entry to the catalogue, with a root page when the object has one. -/
def record (s : Schema) (kind : ObjectKind) (name table : String) (text : Option String) :
    Schema :=
  let paged := kind == .table || kind == .index
  { s with entries := s.entries ++ [⟨kind, name, table, if paged then s.nextPage else 0, text⟩],
           nextPage := if paged then s.nextPage + 1 else s.nextPage }

/-- Removes an object's entry from the catalogue. -/
def unrecord (s : Schema) (name : String) : Schema :=
  { s with entries := s.entries.filter fun e => !sameName e.name name }

/-- Adds an index in checking order: before the others, unless it replaces rows on conflict,
which puts it after them. -/
def addIndex (s : Schema) (i : Index) : Schema :=
  if i.conflict == .replace then { s with indexes := s.indexes ++ [i] }
  else { s with indexes := i :: s.indexes }

end Schema

/-- The two schemas a connection sees: the file's and its own temporary one. -/
structure Database where
  main : Schema := {}
  temp : Schema := {}
  deriving Inhabited

end Sql

end TelemetryBridge
