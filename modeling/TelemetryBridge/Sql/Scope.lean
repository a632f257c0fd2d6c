import TelemetryBridge.Sql.Schema

/-!
# Scopes: what column names refer to

An expression is evaluated in a **scope**: a stack of **levels**, the innermost first, one for
each query an expression sits in. A level holds the **frames** of its query's `FROM` clause (a
table, view or subquery under the name that qualifies its columns, with the current row), the
aliases of its result columns, and the rows of the current group when the query aggregates.

A column name is looked up level by level, innermost first:

* in a level, the frames are searched in order; a name may match one column only, else it is
  *ambiguous*; a column that `USING` or `NATURAL` joined to a frame on its left is passed over
  when unqualified. The frames `new`, `old` and `excluded` of triggers and upserts answer only
  qualified names;
* when no column matches, `rowid`, `oid` or `_rowid_` name the row id of the one frame that has
  row ids, if there is exactly one, and then an unqualified name may be a result alias;
* when no level has the name, a name in double quotes is a text, and `TRUE` and `FALSE` are `1`
  and `0`.

Main definitions: `Sql.Field`, `Sql.Frame`, `Sql.Level`, `Sql.Ref`, `Sql.lookup`,
`Sql.Relation`.
-/

namespace TelemetryBridge

namespace Sql

/-- A column as names see it: its name, affinity (none for an expression without one),
collation (none when the expression has none of its own), declared type, and whether `*`
leaves it out (the argument columns of a table function). -/
structure Field where
  name : String
  affinity : Option Affinity := none
  collation : Option Collation := none
  declared : String := ""
  hidden : Bool := false
  deriving Inhabited

/-- A source of rows of a `FROM` clause as names see it, with its current row. -/
structure Frame where
  /-- The name that qualifies its columns; none for a subquery without an alias. -/
  name : Option String
  fields : List Field
  hasRowid : Bool := false
  /-- Columns joined by `USING` or `NATURAL` to a frame on the left. -/
  merged : List String := []
  /-- The frame answers qualified names only. -/
  qualifiedOnly : Bool := false
  values : List Value := []
  rowid : Value := .null
  deriving Inhabited

/-- The field of a table column. -/
def Column.field (c : Column) : Field :=
  { name := c.name, affinity := some c.affinity, collation := some c.collation,
    declared := c.declared }

namespace Frame

/-- The frame of a table under a name, without a row. -/
def ofTable (t : Table) (name : String) : Frame :=
  { name := some name, fields := t.columns.map Column.field, hasRowid := !t.withoutRowid }

/-- The frame with a row of its table. -/
def withRow (f : Frame) (r : Row) : Frame :=
  { f with values := r.values, rowid := .integer r.rowid }

/-- The frame with a row of values and no row id. -/
def withValues (f : Frame) (vs : List Value) : Frame := { f with values := vs }

/-- The frame with the null row an outer join gives where nothing matches. -/
def nulled (f : Frame) : Frame := { f with values := f.fields.map fun _ => .null, rowid := .null }

/-- A value of the current row. -/
def value (f : Frame) (i : Nat) : Value := f.values.getD i .null

end Frame

/-- The names and current rows one query sees. -/
structure Level where
  frames : List Frame := []
  /-- The aliases of the result columns, for the clauses that may use them. -/
  aliases : List (String × Expr) := []
  /-- The rows of the current group, when the query aggregates. -/
  group : Option (List (List Frame)) := none
  deriving Inhabited

/-- What a column name refers to: a column of a frame of a level (counted from the innermost),
the row id of a frame, a result alias of a level, or a constant. -/
inductive Ref where
  | column (depth frame col : Nat) (field : Field)
  | rowid (depth frame : Nat)
  | resultAlias (depth : Nat) (e : Expr)
  | constant (v : Value)
  deriving Inhabited

/-- What a name finds in one level. -/
inductive Match where
  | nothing
  | column (frame col : Nat) (field : Field)
  | rowid (frame : Nat)
  | resultAlias (e : Expr)
  | ambiguous
  deriving Inhabited

/-- The column matches and row-id candidates of a name among frames, numbered from `k`. -/
def scanFrames (table : Option String) (name : String) :
    List Frame → Nat → List (Nat × Nat × Field) → List Nat → List (Nat × Nat × Field) × List Nat
  | [], _, found, rowids => (found, rowids)
  | f :: rest, k, found, rowids =>
    let visible := match table with
      | some t => (f.name.map (sameName · t)).getD false
      | none => !f.qualifiedOnly
    if !visible then scanFrames table name rest (k + 1) found rowids
    else
      match f.fields.findIdx? fun c => sameName c.name name with
      | some j =>
        if !found.isEmpty && table.isNone && f.merged.any (sameName · name) then
          scanFrames table name rest (k + 1) found rowids
        else scanFrames table name rest (k + 1) (found ++ [(k, j, f.fields.getD j default)]) rowids
      | none =>
        if found.isEmpty && f.hasRowid then scanFrames table name rest (k + 1) found (rowids ++ [k])
        else scanFrames table name rest (k + 1) found rowids

/-- What a name, qualified or not, finds in a level. -/
def Level.find (lv : Level) (table : Option String) (name : String) : Match :=
  match scanFrames table name lv.frames 0 [] [] with
  | ([(k, j, f)], _) => .column k j f
  | (_ :: _ :: _, _) => .ambiguous
  | ([], rowids) =>
    match rowids with
    | [k] => if isRowidName name then .rowid k else aliasOf
    | _ => aliasOf
where
  aliasOf : Match :=
    if table.isNone then
      match lv.aliases.find? fun (a, _) => sameName a name with
      | some (_, e) => .resultAlias e
      | none => .nothing
    else .nothing

/-- A name as messages write it, with its qualifier. -/
def qualifiedText (table : Option String) (name : String) : String :=
  match table with
  | some t => t ++ "." ++ name
  | none => name

/-- Looks a column name up in a scope. -/
def lookup (levels : List Level) (table : Option String) (name : String) (dq : Bool) :
    Except String Ref :=
  go levels 0
where
  go : List Level → Nat → Except String Ref
    | [], _ =>
      if table.isNone && dq then .ok (.constant (.text name))
      else if table.isNone && nameKey name == "TRUE" then .ok (.constant (.integer 1))
      else if table.isNone && nameKey name == "FALSE" then .ok (.constant (.integer 0))
      else .error ("no such column: " ++ qualifiedText table name)
    | lv :: rest, d =>
      match lv.find table name with
      | .column k j f => .ok (.column d k j f)
      | .rowid k => .ok (.rowid d k)
      | .resultAlias e => .ok (.resultAlias d e)
      | .ambiguous => .error ("ambiguous column name: " ++ qualifiedText table name)
      | .nothing => go rest (d + 1)

/-- The value a reference reads in a scope (aliases are evaluated by the caller). -/
def Ref.read (levels : List Level) : Ref → Value
  | .column d k j _ => ((levels.getD d default).frames.getD k default).value j
  | .rowid d k => ((levels.getD d default).frames.getD k default).rowid
  | .constant v => v
  | .resultAlias _ _ => .null

/-- The result of a query: its columns and rows. -/
structure Relation where
  fields : List Field
  rows : List (List Value)
  deriving Inhabited

/-- Strips a `:N` suffix that a repeated name was given. -/
def withoutCounter (n : String) : String :=
  let cs := n.toList.reverse
  let ds := cs.takeWhile fun c => c.isDigit
  match cs.drop ds.length with
  | ':' :: rest => if rest.isEmpty then n else String.ofList rest.reverse
  | _ => n

/-- Column names made unique for a subquery, view or new table: a name met before (without
regard to ASCII case) gets `:1`, `:2`, … after it. -/
def uniqueNames (names : List String) : List String :=
  (names.foldl (fun (acc : List String) n =>
    let rec pick : Nat → Nat → String
      | 0, _ => n
      | fuel + 1, k =>
        let candidate := if k == 0 then n else withoutCounter n ++ ":" ++ toString k
        if acc.any (sameName · candidate) then pick fuel (k + 1) else candidate
    acc ++ [pick (acc.length + 2) 0]) [])

/-- The columns of the catalogue tables. -/
def catalogueFields : List Field :=
  [{ name := "type", affinity := some .text, collation := some .binary, declared := "text" },
   { name := "name", affinity := some .text, collation := some .binary, declared := "text" },
   { name := "tbl_name", affinity := some .text, collation := some .binary, declared := "text" },
   { name := "rootpage", affinity := some .integer, collation := some .binary, declared := "int" },
   { name := "sql", affinity := some .text, collation := some .binary, declared := "text" }]

/-- The rows of a catalogue, with row ids from 1. -/
def Schema.catalogueRows (s : Schema) : List Row :=
  s.entries.zipIdx.map fun (e, i) =>
    ⟨i + 1, [.text e.kind.word, .text e.name, .text e.table, .integer e.rootpage,
      match e.text with
      | some t => .text t
      | none => .null]⟩

/-- The catalogue a table name stands for: `sqlite_master` (also `sqlite_schema`) for the file's
schema, `sqlite_temp_master` (also `sqlite_temp_schema`) for the temporary one. -/
def catalogueOf? (n : String) : Option Bool :=
  let k := nameKey n
  if k == "SQLITE_MASTER" || k == "SQLITE_SCHEMA" then some false
  else if k == "SQLITE_TEMP_MASTER" || k == "SQLITE_TEMP_SCHEMA" then some true
  else none

end Sql

end TelemetryBridge
