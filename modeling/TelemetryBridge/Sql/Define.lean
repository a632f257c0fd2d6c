import TelemetryBridge.Sql.Prepare
import TelemetryBridge.Sql.Parse.Basic

/-!
# Statements that define the schema

`CREATE`, `DROP` and `ALTER TABLE` change the schema and its catalogue. Each is checked the way
the database checks it while preparing the statement; a statement with parameters then fails,
as no value is bound to them, and only then come the checks that read rows.

* **`CREATE TABLE`** refuses a name starting with `sqlite_`, a table or view of the name in the
  schema (unless `IF NOT EXISTS`) and an index of the name. Column by column: a name met before,
  a second primary key, `AUTOINCREMENT` off a row-id column, a default that depends on more than
  constants and functions, an unknown collation. A single primary-key column declared `INTEGER`
  holds the row id (unless its column constraint orders it descending); other primary keys and
  uniqueness constraints become indexes (`sqlite_autoindex_T_N`), one per distinct key. Then a
  `STRICT` table needs standard column types, a table `WITHOUT ROWID` a primary key and no
  `AUTOINCREMENT`, and checks and generated columns are checked. The first `AUTOINCREMENT` table
  of a schema brings the table `sqlite_sequence`.
* **`CREATE TABLE … AS`** makes the columns of a query's result and fills them with its rows.
* **`CREATE INDEX`** needs an existing table (not a view or a table of the database's own) and
  a new name; a unique index fails on rows that already break it.
* **`CREATE VIEW`** and **`CREATE TRIGGER`** store their definitions; a trigger fires `BEFORE`
  or `AFTER` changes of a table and `INSTEAD OF` changes of a view.
* **`DROP`** removes an object; a table takes its indexes, triggers and sequence with it. The
  database's own tables and the indexes of constraints may not be dropped.
* **`ALTER TABLE`** renames a table or a column, adds a column (no key, and with rows present
  neither `NOT NULL` without a default nor a default that is not a constant) or drops one (not
  a key, not the last).

Main definitions: `Sql.createTable`, `Sql.createIndex`, `Sql.dropObject`, `Sql.alterTable`.
-/

namespace TelemetryBridge

namespace Sql

/-- The failure of a statement with parameters, which are never bound. -/
def unbound (parameters : Nat) : Except String Unit :=
  if parameters = 0 then .ok ()
  else .error ("not enough args to execute query: want " ++ toString parameters ++ " got 0")

/-- Whether a name is kept for the database's own objects. -/
def reservedName (n : String) : Bool := "SQLITE_".toList.isPrefixOf (nameKey n).toList

/-- Whether a table may not be dropped: the database's own tables, statistics and parameter
tables aside. -/
def undroppable (n : String) : Bool :=
  let rest := (nameKey n).toList.drop 7
  reservedName n && !"STAT".toList.isPrefixOf rest && !"PARAMETERS".toList.isPrefixOf rest

/-- Whether an expression is constant enough for a default: no column (bare `TRUE` and `FALSE`
aside), parameter, subquery or `RAISE`. -/
def Expr.constant : Nat → Expr → Bool
  | 0, _ => false
  | fuel + 1, e =>
    match e with
    | .column none n false => nameKey n == "TRUE" || nameKey n == "FALSE"
    | .column _ _ _ | .param | .subquery _ | .exists _ | .inQuery _ _ _ | .raise _ _ => false
    | e => e.parts.all (Expr.constant fuel)

/-- Whether a default is a value by itself: a literal under signs or a cast, or `TRUE`,
`FALSE`. -/
def Expr.literal : Expr → Bool
  | .lit _ | .wide _ => true
  | .unary .negate e | .unary .plus e | .cast e _ => e.literal
  | .column none n false => nameKey n == "TRUE" || nameKey n == "FALSE"
  | _ => false

/-- The collation a name stands for, which must exist. -/
def collationNamed (n : String) : Except String Collation :=
  match Collation.ofName? n with
  | some c => .ok c
  | none => .error ("no such collation sequence: " ++ n)

/-- The type a column of a `STRICT` table declares, which must be a standard one. -/
def strictTypeOf (table : String) (d : ColumnDef) : Except String String :=
  if ["ANY", "BLOB", "INT", "INTEGER", "REAL", "TEXT"].contains d.declared then .ok d.declared
  else if d.declared.isEmpty then .error ("missing datatype for " ++ table ++ "." ++ d.name)
  else .error ("unknown datatype for " ++ table ++ "." ++ d.name ++ ": \"" ++ d.declared ++ "\"")

/-- A name as the catalogue's generated texts write it: in double quotes unless it is a plain
word. -/
def quotedName (n : String) : String :=
  let plain := !n.isEmpty && n.all (fun c => c.isAlphanum || c == '_') &&
    !(n.toList.headD ' ').isDigit && !Parse.isReserved n
  if plain then n else "\"" ++ String.join (n.toList.map fun c => if c == '"' then "\"\"" else c.toString) ++ "\""

/-- The name of the automatic index for a table's `k`-th index. -/
def autoindexName (table : String) (k : Nat) : String :=
  "sqlite_autoindex_" ++ table ++ "_" ++ toString k

namespace Schema

/-- Adds an automatic index of a table under construction unless one on the same columns and
collations exists. -/
def addAutoindex (s : Schema) (t : Table) (terms : List (Nat × Option String × Bool))
    (conflict : Conflict) (origin : IndexOrigin) (catalogued : Bool) : Schema :=
  let mine := s.indexesOf t.name
  let collationAt (i : Nat) (c : Option String) : Collation :=
    (c.bind Collation.ofName?).getD (t.column i).collation
  let same (ix : Index) : Bool :=
    ix.terms.length == terms.length &&
      (ix.terms.zip terms).all fun (it, (i, c, _)) =>
        (match it.expr with
         | .column _ n _ => sameName n (t.column i).name
         | _ => false) && t.termCollation it == collationAt i c
  if mine.any same then s
  else
    let name := autoindexName t.name (mine.length + 1)
    let ix : Index :=
      { name, table := t.name, unique := true, conflict, origin,
        terms := terms.map fun (i, c, desc) =>
          { expr := .column none (t.column i).name false, collation := c, descending := desc } }
    let s := s.addIndex ix
    if catalogued then s.record .index name t.name none else s

/-- Removes a table's indexes and triggers from the schema and the catalogue. -/
def dropDependents (s : Schema) (table : String) : Schema :=
  let ixs := s.indexesOf table
  let trs := s.triggersOf table
  let s := { s with indexes := s.indexes.filter fun i => !sameName i.table table,
                    triggers := s.triggers.filter fun t => !sameName t.table table }
  let s := ixs.foldl (fun s i => s.unrecord i.name) s
  trs.foldl (fun s t => s.unrecord t.name) s

end Schema

/-- The checks that `CREATE TABLE` and `CREATE VIEW` make of the new name. -/
def checkNewName (db : Database) (temp : Bool) (name : String) : Except String Unit := do
  if reservedName name then throw ("object name reserved for internal use: " ++ name)
  if ((db.schema temp).index? name).isSome then
    throw ("there is already an index named " ++ name)

/-- The table or view already of a name in a schema, with the word for its kind. -/
def existingObject (s : Schema) (name : String) : Option String :=
  match s.table? name, s.view? name with
  | some _, _ => some "table"
  | _, some _ => some "view"
  | _, _ => none

/-- Makes a table from its definition. -/
def createTable (cx : Context) (temp ifNotExists : Bool) (name : String) (defs : List ColumnDef)
    (shape : TableShape) (text : String) (parameters : Nat) : Except String Database := do
  let db := cx.db
  if reservedName name then throw ("object name reserved for internal use: " ++ name)
  match existingObject (db.schema temp) name with
  | some kind => if ifNotExists then return db else throw (kind ++ " " ++ name ++ " already exists")
  | none => pure ()
  checkNewName db temp name
  let position (n : String) : Option Nat := defs.findIdx? fun c => sameName c.name n
  -- the columns, in order
  let _ ← (defs.zipIdx).foldlM (fun (seenKey : Bool) (d, i) => do
    if (defs.take i).any fun c => sameName c.name d.name then
      throw ("duplicate column name: " ++ d.name)
    let seenKey ← if d.primaryKey then do
        if seenKey then throw ("table \"" ++ name ++ "\" has more than one primary key")
        if d.autoincrement && !(d.declared == "INTEGER" && !d.descending) then
          throw "AUTOINCREMENT is only allowed on an INTEGER PRIMARY KEY"
        if d.generated.isSome then throw "generated columns cannot be part of the PRIMARY KEY"
        pure true
      else pure seenKey
    match d.default with
    | some e =>
      if !e.constant 1000 then
        throw ("default value of column [" ++ d.name ++ "] is not constant")
      if d.generated.isSome then throw "cannot use DEFAULT on a generated column"
    | none => pure ()
    match d.collation with
    | some c => let _ ← collationNamed c
    | none => pure ()
    pure seenKey) false
  let columnKey := defs.find? (·.primaryKey)
  if shape.primary.isSome && columnKey.isSome then
    throw ("table \"" ++ name ++ "\" has more than one primary key")
  -- the primary key and uniqueness constraints
  let keyTerms : Option (List (String × Option String × Bool)) :=
    match shape.primary, columnKey with
    | some ks, _ => some (ks.map fun k => (k.name, k.collation, k.descending))
    | none, some d => some [(d.name, d.collation, d.descending)]
    | none, none => none
  let integerKey : Option Nat :=
    match keyTerms with
    | some [(n, _, desc)] =>
      match position n with
      | some i =>
        let d := defs.getD i default
        if d.declared == "INTEGER" && !(shape.primary.isNone && desc) then some i else none
      | none => none
    | _ => none
  let autoincrement := shape.autoincrement || defs.any (·.autoincrement)
  if shape.autoincrement && integerKey.isNone then
    throw "AUTOINCREMENT is only allowed on an INTEGER PRIMARY KEY"
  let resolve (ks : List (String × Option String × Bool)) :
      Except String (List (Nat × Option String × Bool)) :=
    ks.mapM fun (n, c, desc) => do
      match c with
      | some c => let _ ← collationNamed c
      | none => pure ()
      match position n with
      | some i => pure (i, c, desc)
      | none => throw ("no such column: " ++ n)
  let primaryTerms ← match keyTerms, integerKey with
    | some ks, none => some <$> resolve ks
    | _, _ => pure none
  let uniqueTerms ← shape.uniques.mapM fun (ks, conflict) => do
    pure (← resolve (ks.map fun k => (k.name, k.collation, k.descending)), conflict)
  -- the table's own checks
  let strictTypes ← if shape.strict then defs.mapM fun d => some <$> strictTypeOf name d
    else pure (defs.map fun _ => none)
  if shape.withoutRowid && autoincrement then
    throw "AUTOINCREMENT not allowed on WITHOUT ROWID tables"
  if shape.withoutRowid && keyTerms.isNone then throw ("PRIMARY KEY missing on table " ++ name)
  let rowidColumn := if shape.withoutRowid then none else integerKey
  let keyColumns : List Nat := match keyTerms with
    | some ks => ks.filterMap fun (n, _, _) => position n
    | none => []
  let columns ← (defs.zipIdx).mapM fun (d, i) => do
    let collation ← match d.collation with
      | some c => collationNamed c
      | none => pure .binary
    let strictType := strictTypes.getD i none
    let inKey := keyColumns.contains i
    let refusesNull := d.notNull ||
      (inKey && (shape.withoutRowid || (shape.strict && rowidColumn != some i)))
    pure ({ name := d.name, declared := d.declared,
            affinity := if strictType == some "ANY" then .blob else Affinity.ofType d.declared,
            collation,
            notNull := if refusesNull then some (if d.notNull then d.notNullConflict else .abort)
              else none,
            default := d.default, primaryKey := inKey, strictType,
            generated := d.generated } : Column)
  let checks := defs.flatMap (·.checks) ++ shape.checks
  let key : List (Nat × Collation × Bool) := match primaryTerms with
    | some ts => ts.map fun (i, c, desc) =>
      (i, (c.bind Collation.ofName?).getD ((columns.getD i default).collation), desc)
    | none => []
  let table : Table :=
    { name, columns, rowidColumn, withoutRowid := shape.withoutRowid, strict := shape.strict,
      autoincrement, checks, key,
      rowidConflict := match columnKey with
        | some d => d.primaryConflict
        | none => shape.primaryConflict }
  let frame := Frame.ofTable table name
  checks.forM fun (_, e) =>
    checkExpr evalFuel cx [{ frames := [frame] }] { within := some "CHECK constraints" } e
  defs.forM fun d =>
    match d.generated with
    | some (e, _) => checkExpr evalFuel cx [{ frames := [frame] }] { within := some "generated columns" } e
    | none => pure ()
  if !defs.isEmpty && defs.all (·.generated.isSome) then
    throw "must have at least one non-generated column"
  unbound parameters
  -- the schema: the table, its indexes in the order their constraints were written
  let s := db.schema temp
  let s := { s with tables := s.tables ++ [table] }.record .table name name (some text)
  let columnIndexes : List (List (Nat × Option String × Bool) × Conflict × IndexOrigin) :=
    (defs.zipIdx).flatMap fun (d, i) =>
      (if d.primaryKey && rowidColumn != some i then
        [([(i, d.collation, d.descending)], d.primaryConflict, IndexOrigin.primary)] else []) ++
      (if d.unique then [([(i, d.collation, false)], d.uniqueConflict, IndexOrigin.unique)] else [])
  let tableIndexes :=
    (match shape.primary, primaryTerms with
     | some _, some ts => [(ts, shape.primaryConflict, IndexOrigin.primary)]
     | _, _ => []) ++ uniqueTerms.map fun (ts, c) => (ts, c, IndexOrigin.unique)
  let s := (columnIndexes ++ tableIndexes).foldl (fun s (ts, c, origin) =>
    s.addAutoindex table ts c origin !(shape.withoutRowid && origin == .primary)) s
  let s := if autoincrement && (s.table? sequenceTable).isNone then
      let seqTable : Table :=
        { name := sequenceTable, columns := [{ name := "name" }, { name := "seq" }] }
      { s with tables := s.tables ++ [seqTable] }.record .table sequenceTable sequenceTable
        (some "CREATE TABLE sqlite_sequence(name,seq)")
    else s
  pure (db.withSchema temp s)

/-- The type the catalogue's text of a made table declares for a column of an affinity. A
connection that reads the catalogue knows the column by this type alone, whatever the query's
column was declared as. -/
def affinityWord : Affinity → String
  | .blob => ""
  | .text => "TEXT"
  | .numeric => "NUM"
  | .integer => "INT"
  | .real => "REAL"

/-- Makes a table from a query's result and fills it with the rows. -/
def createTableAs (cx : Context) (temp ifNotExists : Bool) (name : String) (q : Query)
    (parameters : Nat) : Except String Database := do
  let db := cx.db
  if reservedName name then throw ("object name reserved for internal use: " ++ name)
  match existingObject (db.schema temp) name with
  | some kind => if ifNotExists then return db else throw (kind ++ " " ++ name ++ " already exists")
  | none => pure ()
  checkNewName db temp name
  let fields ← checkQuery evalFuel cx [] {} q
  unbound parameters
  let rel ← faultText (evalQuery evalFuel cx [] q)
  let names := uniqueNames (fields.map (·.name))
  let columns : List Column := (names.zip fields).map fun (n, f) =>
    { name := n, declared := affinityWord (f.affinity.getD .blob), affinity := f.affinity.getD .blob,
      collation := f.collation.getD .binary }
  let rows := rel.rows.zipIdx.map fun (vs, i) =>
    (⟨(i : Int) + 1, (columns.zip vs).map fun (c, v) => Column.affinity c |>.apply v⟩ : Row)
  let short := (names.foldl (fun n c => n + (quotedName c).length + 5) 0) +
    (quotedName name).length < 50
  let (sep, sep2, close) := if short then ("", ",", ")") else ("\n  ", ",\n  ", "\n)")
  let body := (columns.zipIdx.map fun (c, i) =>
    (if i == 0 then sep else sep2) ++ quotedName c.name ++
      (if c.declared.isEmpty then "" else " " ++ c.declared))
  let text := "CREATE TABLE " ++ quotedName name ++ "(" ++ String.join body ++ close
  let s := db.schema temp
  let s := { s with tables := s.tables ++ [({ name, columns, rows } : Table)] }.record .table name name
    (some text)
  pure (db.withSchema temp s)

/-- Makes an index, checking the rows already there when it is unique. -/
def createIndex (cx : Context) (unique ifNotExists : Bool) (name table : String)
    (terms : List IndexTerm) (filter : Option Expr) (text : String) (parameters : Nat) :
    Except String Database := do
  let db := cx.db
  let some temp := db.home? table | throw ("no such table: main." ++ table)
  let t ← match db.named? table with
    | some (.table t) => pure t
    | some (.view _) => throw "views may not be indexed"
    | none => throw ("no such table: main." ++ table)
  if reservedName t.name then throw ("table " ++ t.name ++ " may not be indexed")
  if reservedName name then throw ("object name reserved for internal use: " ++ name)
  let s := db.schema temp
  if (s.table? name).isSome || (s.view? name).isSome then
    throw ("there is already a table named " ++ name)
  if (s.index? name).isSome then
    if ifNotExists then return db else throw ("index " ++ name ++ " already exists")
  let lv : List Level := [{ frames := [Frame.ofTable t t.name] }]
  match filter with
  | some f => checkExpr evalFuel cx lv { within := some "partial index WHERE clauses" } f
  | none => pure ()
  terms.forM fun term => do
    checkExpr evalFuel cx lv { within := some "index expressions" } term.expr
    match term.collation with
    | some c => let _ ← collationNamed c
    | none => pure ()
  unbound parameters
  let ix : Index := { name, table := t.name, unique, terms, filter }
  if unique then
    let keys ← faultText (t.rows.filterMapM fun r => ix.keyOf cx t r)
    let _ ← keys.foldlM (fun (seen : List (List Value)) k =>
      if seen.any (ix.sameKey t k) then .error ("UNIQUE constraint failed: " ++ ix.describe t)
      else .ok (k :: seen)) []
  let s := (s.addIndex ix).record .index name t.name (some text)
  pure (db.withSchema temp s)

/-- Makes a view. -/
def createView (db : Database) (temp ifNotExists : Bool) (name : String)
    (columns : Option (List String)) (q : Query) (text : String) (parameters : Nat) :
    Except String Database := do
  if parameters > 0 then throw "parameters are not allowed in views"
  if reservedName name then throw ("object name reserved for internal use: " ++ name)
  match existingObject (db.schema temp) name with
  | some kind => if ifNotExists then return db else throw (kind ++ " " ++ name ++ " already exists")
  | none => pure ()
  checkNewName db temp name
  let s := db.schema temp
  let s := { s with views := s.views ++ [({ name, columns, query := q } : View)] }.record .view name name
    (some text)
  pure (db.withSchema temp s)

/-- Makes a trigger. -/
def createTrigger (db : Database) (temp ifNotExists : Bool) (name : String) (timing : Timing)
    (event : Event) (table : String) (whenever : Option Expr) (body : List Statement)
    (text : String) (parameters : Nat) : Except String Database := do
  let some home := db.home? table | throw ("no such table: main." ++ table)
  let temp := temp || home
  if reservedName name then throw ("object name reserved for internal use: " ++ name)
  if ((db.schema temp).trigger? name).isSome then
    if ifNotExists then return db else throw ("trigger " ++ name ++ " already exists")
  let (target, isView) := match db.named? table with
    | some (.view v) => (v.name, true)
    | some (.table t) => (t.name, false)
    | none => (table, false)
  if reservedName target then throw "cannot create trigger on system table"
  if isView && timing != .insteadOf then
    throw ("cannot create " ++ (if timing == .before then "BEFORE" else "AFTER") ++
      " trigger on view: " ++ table)
  if !isView && timing == .insteadOf then
    throw ("cannot create INSTEAD OF trigger on table: " ++ table)
  unbound parameters
  let s := db.schema temp
  let s := { s with triggers := s.triggers ++
    [({ name, table := target, timing, event, whenever, body } : Trigger)] }
  pure (db.withSchema temp (s.record .trigger name target (some text)))

/-- Removes a table, index, view or trigger. -/
def dropObject (db : Database) (kind : ObjectKind) (ifExists : Bool) (name : String)
    (parameters : Nat) : Except String Database := do
  match kind with
  | .table | .view =>
    let isView := kind == .view
    let missing := if isView then "no such view: " else "no such table: "
    match catalogueOf? name with
    | some temp =>
      if isView then throw ("use DROP TABLE to delete table " ++
        (if temp then "sqlite_temp_master" else "sqlite_master"))
      throw ("table " ++ (if temp then "sqlite_temp_master" else "sqlite_master") ++
        " may not be dropped")
    | none => pure ()
    let some temp := db.home? name | if ifExists then return db else throw (missing ++ name)
    let s := db.schema temp
    match s.table? name, s.view? name with
    | some t, _ =>
      if undroppable t.name then throw ("table " ++ t.name ++ " may not be dropped")
      if isView then throw ("use DROP TABLE to delete table " ++ t.name)
      unbound parameters
      let s := { s with tables := s.tables.filter fun u => !sameName u.name t.name }
      let s := (s.dropDependents t.name).unrecord t.name
      pure ((db.withSchema temp s).editSequences temp t.name fun _ => none)
    | none, some v =>
      if !isView then throw ("use DROP VIEW to delete view " ++ v.name)
      unbound parameters
      let s := { s with views := s.views.filter fun u => !sameName u.name v.name }
      pure (db.withSchema temp ((s.dropDependents v.name).unrecord v.name))
    | none, none => if ifExists then pure db else throw (missing ++ name)
  | .index =>
    match db.index? name with
    | some (temp, ix) =>
      if ix.origin != .created then
        throw "index associated with UNIQUE or PRIMARY KEY constraint cannot be dropped"
      unbound parameters
      let s := db.schema temp
      let s := { s with indexes := s.indexes.filter fun i => !sameName i.name ix.name }
      pure (db.withSchema temp (s.unrecord ix.name))
    | none => if ifExists then pure db else throw ("no such index: " ++ name)
  | .trigger =>
    match db.trigger? name with
    | some (temp, tr) =>
      unbound parameters
      let s := db.schema temp
      let s := { s with triggers := s.triggers.filter fun t => !sameName t.name tr.name }
      pure (db.withSchema temp (s.unrecord tr.name))
    | none => if ifExists then pure db else throw ("no such trigger: " ++ name)

/-- The table `ALTER TABLE` changes, with whether the temporary schema holds it. -/
def alterable (db : Database) (n : String) : Except String (Bool × Table) :=
  match catalogueOf? n with
  | some temp =>
    .error ("table " ++ (if temp then "sqlite_temp_master" else "sqlite_master") ++
      " may not be altered")
  | none =>
    match db.home? n, db.named? n with
    | some temp, some (.table t) =>
      if reservedName t.name then .error ("table " ++ t.name ++ " may not be altered")
      else .ok (temp, t)
    | _, some (.view v) => .error ("view " ++ v.name ++ " may not be altered")
    | _, _ => .error ("no such table: " ++ n)

/-- The name of an automatic index of a table with a new table name. -/
def renameAutoindex (old new name : String) : String :=
  let stem := ("sqlite_autoindex_" ++ old ++ "_").toList
  if stem.isPrefixOf name.toList then
    "sqlite_autoindex_" ++ new ++ "_" ++ String.ofList (name.toList.drop stem.length)
  else name

/-- Renames a table with its indexes, triggers and catalogue entries. -/
def Schema.renameTable (s : Schema) (old new : String) : Schema :=
  let renameIndex (i : Index) : Index :=
    if sameName i.table old then { i with table := new, name := renameAutoindex old new i.name }
    else i
  let renameEntry (e : Entry) : Entry :=
    let e := if sameName e.table old then { e with table := new } else e
    if e.kind == .table && sameName e.name old then { e with name := new }
    else if e.kind == .index then { e with name := renameAutoindex old new e.name }
    else e
  let tables := s.tables.map fun t => if sameName t.name old then { t with name := new } else t
  let triggers := s.triggers.map fun t => if sameName t.table old then { t with table := new } else t
  { s with tables, indexes := s.indexes.map renameIndex, triggers,
           entries := s.entries.map renameEntry }

/-- Changes a table's shape. -/
def alterTable (cx : Context) (name : String) (change : Alteration) (parameters : Nat) :
    Except String Database := do
  let db := cx.db
  match change with
  | .addColumn d =>
    if (db.named? name) matches some (.view _) then throw "Cannot add a column to a view"
    let (temp, t) ← alterable db name
    if (t.columnIndex d.name).isSome then throw ("duplicate column name: " ++ d.name)
    match d.default with
    | some e =>
      if !e.constant 1000 then throw ("default value of column [" ++ d.name ++ "] is not constant")
    | none => pure ()
    let collation ← match d.collation with
      | some c => collationNamed c
      | none => pure .binary
    if d.primaryKey then throw "Cannot add a PRIMARY KEY column"
    if d.unique then throw "Cannot add a UNIQUE column"
    unbound parameters
    let filled := !t.rows.isEmpty
    let dflt : Option Expr := match d.default with
      | some (.lit .null) => none
      | e => e
    if d.notNull && dflt.isNone && filled then
      throw "Cannot add a NOT NULL column with default value NULL"
    if !((dflt.map Expr.literal).getD true) && filled then
      throw "Cannot add a column with non-constant default"
    let c : Column :=
      { name := d.name, declared := d.declared, affinity := Affinity.ofType d.declared, collation,
        notNull := if d.notNull then some d.notNullConflict else none, default := d.default }
    let v ← match d.default with
      | some e => faultText (eval evalFuel cx [] e)
      | none => pure .null
    let v := c.affinity.apply v
    let t := { t with columns := t.columns ++ [c],
                      rows := t.rows.map fun r => { r with values := r.values ++ [v] } }
    pure (db.withSchema temp ((db.schema temp).store t))
  | .renameTo n =>
    let some home := db.home? name | throw ("no such table: " ++ name)
    let s := db.schema home
    if (s.table? n).isSome || (s.view? n).isSome || (s.index? n).isSome || (catalogueOf? n).isSome then
      throw ("there is already another table or index with this name: " ++ n)
    let (temp, t) ← alterable db name
    if reservedName n then throw ("object name reserved for internal use: " ++ n)
    unbound parameters
    let db := db.withSchema temp ((db.schema temp).renameTable t.name n)
    pure (db.editSequences temp t.name fun r => some ⟨r.rowid, [.text n, r.values.getD 1 .null]⟩)
  | .renameColumn old written new =>
    if (db.named? name) matches some (.view _) then
      throw ("cannot rename columns of view \"" ++ name ++ "\"")
    let (temp, t) ← alterable db name
    let some i := t.columnIndex old | throw ("no such column: \"" ++ written ++ "\"")
    unbound parameters
    let clash := (t.columns.zipIdx).any fun (c, j) => j != i && sameName c.name new
    if clash then
      throw ("error in table " ++ t.name ++ " after rename: duplicate column name: " ++ new)
    let t := { t with columns := t.columns.set i { t.column i with name := new } }
    let s := db.schema temp
    let renameTerm (term : IndexTerm) : IndexTerm :=
      match term.expr with
      | .column q n dq => if sameName n old then { term with expr := .column q new dq } else term
      | _ => term
    let indexes := s.indexes.map fun ix =>
      if sameName ix.table t.name then { ix with terms := ix.terms.map renameTerm } else ix
    let s := { s with indexes }
    pure (db.withSchema temp (s.store t))
  | .dropColumn n written =>
    if (db.named? name) matches some (.view _) then
      throw ("cannot drop column from view \"" ++ name ++ "\"")
    let (temp, t) ← alterable db name
    let some i := t.columnIndex n | throw ("no such column: \"" ++ written ++ "\"")
    let c := t.column i
    let s := db.schema temp
    let ownIndex := (s.indexesOf t.name).any fun ix =>
      ix.origin != .created && ix.terms.length == 1 && ix.mentions [c.name]
    if c.primaryKey then throw ("cannot drop PRIMARY KEY column: \"" ++ n ++ "\"")
    if ownIndex then throw ("cannot drop UNIQUE column: \"" ++ n ++ "\"")
    if t.columns.length ≤ 1 then throw ("cannot drop column \"" ++ n ++ "\": no other columns exist")
    unbound parameters
    let used := (s.indexesOf t.name).find? fun ix => ix.mentions [c.name]
    match used with
    | some ix =>
      if ix.origin == .created then
        throw ("error in index " ++ ix.name ++ " after drop column: no such column: " ++ c.name)
      else throw ("error in table " ++ t.name ++ " after drop column: no such column: " ++ c.name)
    | none => pure ()
    if t.checks.any fun (_, e) => e.mentions [c.name] 1000 && !isRowidName c.name then
      throw ("error in table " ++ t.name ++ " after drop column: no such column: " ++ c.name)
    let shift (j : Nat) : Nat := if j > i then j - 1 else j
    let t := { t with
      columns := t.columns.eraseIdx i
      rowidColumn := t.rowidColumn.map shift
      key := t.key.map fun (j, k, d) => (shift j, k, d)
      rows := t.rows.map fun r => { r with values := r.values.eraseIdx i } }
    pure (db.withSchema temp (s.store t))

end Sql

end TelemetryBridge
