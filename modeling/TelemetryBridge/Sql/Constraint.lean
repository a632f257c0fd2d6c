import TelemetryBridge.Sql.Store

/-!
# The rules a row must keep

Before a new or changed row is stored, the rules of its table are checked in this order:

1. **Nulls.** A null in a column declared `NOT NULL` breaks the row: under `REPLACE` the
   column's default takes its place (and the row still breaks if that is null, or if there is
   no default), under `IGNORE` the row is skipped, otherwise the statement fails with
   `NOT NULL constraint failed: t.c`.
2. **Checks.** A `CHECK` expression that is false (null passes) fails with
   `CHECK constraint failed: name`, or skips the row under `IGNORE`.
3. **Row id.** A given row id already in use is a breach of `t.rowid` (or of the row-id column).
4. **Types.** A `STRICT` table refuses a value of the wrong type for its column (null aside):
   `cannot store TEXT value in INTEGER column t.c`; this comes before the checks when the table
   has checks.
5. **Uniqueness.** For each unique index, in checking order, a row whose key (the values of its
   terms, none null, under the terms' collations; rows outside a partial index have none)
   equals another row's breaks it: `UNIQUE constraint failed: t.a, t.b`, or `index 'name'` for
   an index on expressions. `REPLACE` removes the other row, `IGNORE` skips the new one.

Values are stored under their column's **affinity** before any rule is checked.

Main definitions: `Sql.Slot`, `Sql.Table.stored`, `Sql.Table.fillNulls`, `Sql.Table.failedCheck`,
`Sql.Table.typeCheck`, `Sql.Index.keyOf`, `Sql.Table.upsertTarget`.
-/

namespace TelemetryBridge

namespace Sql

/-- Where an inserted or updated value goes: a column, or the row id. -/
inductive Slot where
  | column (i : Nat)
  | rowid
  deriving DecidableEq, Inhabited

/-- The name of a type in messages about stored values. -/
def Value.typeName : Value → String
  | .null => "NULL"
  | .integer _ => "INTEGER"
  | .real _ => "REAL"
  | .text _ => "TEXT"
  | .blob _ => "BLOB"

/-- A row id from a value: a number that is a whole number (a text read as a number first),
else a datatype mismatch. -/
def rowidOf (v : Value) : Except Fault Int :=
  match Affinity.integer.apply v with
  | .integer n => .ok n
  | _ => .error (Fault.of "datatype mismatch")

/-- A failure of a rule, with what the failure does to the statement. -/
def Fault.breach (message : String) (action : Conflict) : Fault := { message, action }

namespace Expr

/-- Whether an expression names one of some columns, outside of subqueries. -/
def mentions (names : List String) : Nat → Expr → Bool
  | 0, _ => true
  | fuel + 1, e =>
    match e with
    | .column _ n _ => names.any (sameName · n) || isRowidName n
    | e => e.parts.any (mentions names fuel)

end Expr

namespace Table

/-- Where a named value goes; `none` when the name is neither a column nor the row id. -/
def slot (t : Table) (n : String) : Option Slot :=
  match t.columnIndex n with
  | some i => some (.column i)
  | none => if !t.withoutRowid && isRowidName n then some .rowid else none

/-- Whether a slot holds the row id: the row id itself or its column. -/
def holdsRowid (t : Table) : Slot → Bool
  | .rowid => true
  | .column i => t.rowidColumn == some i

/-- The name of the row id in messages: its column, else `t.rowid`. -/
def rowidText (t : Table) : String :=
  match t.rowidColumn with
  | some i => t.qualified i
  | none => t.name ++ ".rowid"

/-- The frame of a row of the table under a name. -/
def frameOf (t : Table) (name : String) (r : Row) : Frame := (Frame.ofTable t name).withRow r

/-- The fields of the table's columns. -/
def fields (t : Table) : List Field := t.columns.map Column.field

/-- Values stored under their columns' affinities. -/
def stored (t : Table) (vals : List Value) : List Value :=
  (List.range t.columns.length).map fun i => (t.column i).affinity.apply (vals.getD i .null)

/-- The value of a column's default, evaluated afresh for each row (null without one). -/
def defaultOf (cx : Context) (t : Table) (i : Nat) : Except Fault Value :=
  match (t.column i).default with
  | some e => eval evalFuel cx [] e
  | none => .ok .null

/-- The values of a row with its generated columns computed from the others, in column order. -/
def generate (cx : Context) (t : Table) (r : Row) : Except Fault Row :=
  (List.range t.columns.length).foldlM (fun (r : Row) i =>
    match (t.column i).generated with
    | some (e, _) => do
      let v ← eval evalFuel cx [{ frames := [t.frameOf t.name r] }] e
      pure { r with values := r.values.set i ((t.column i).affinity.apply v) }
    | none => pure r) r

/-- The rule for nulls of a column under a statement's conflict rule, if it refuses nulls. -/
def nullRule (t : Table) (override : Option Conflict) (i : Nat) : Option Conflict :=
  (t.column i).notNull.map fun own =>
    let rule := override.getD own
    if rule == .replace && (t.column i).default.isNone then .abort else rule

/-- Applies the rules for nulls to the columns a change sets (`changed`): a null where none may
stand takes the column's default under `REPLACE`, skips the row under `IGNORE` (`none`), and
fails otherwise. A default that is itself null fails afterwards. -/
def fillNulls (cx : Context) (t : Table) (override : Option Conflict) (changed : Nat → Bool)
    (vals : List Value) : Except Fault (Option (List Value)) := do
  let columns := (List.range t.columns.length).filter fun i => changed i && t.rowidColumn != some i
  let first ← columns.foldlM (fun (acc : Option (List Value)) i =>
    match acc with
    | none => pure none
    | some vs =>
      match t.nullRule override i with
      | some rule =>
        if (vs.getD i .null).isNull then
          match rule with
          | .replace => do
            let d ← t.defaultOf cx i
            pure (some (vs.set i ((t.column i).affinity.apply d)))
          | .ignore => pure none
          | rule => throw (Fault.breach ("NOT NULL constraint failed: " ++ t.qualified i) rule)
        else pure (some vs)
      | none => pure (some vs)) (some vals)
  match first with
  | none => pure none
  | some vs =>
    columns.forM fun i =>
      if t.nullRule override i == some .replace && (vs.getD i .null).isNull then
        throw (Fault.breach ("NOT NULL constraint failed: " ++ t.qualified i) .abort)
      else pure ()
    pure (some vs)

/-- The rule a check follows under a statement's conflict rule: `REPLACE` fails instead. -/
def checkRule (override : Option Conflict) : Conflict :=
  match override with
  | some .replace | none => .abort
  | some r => r

/-- The name of the first check a row fails. -/
def failedCheck (cx : Context) (t : Table) (r : Row) : Except Fault (Option String) :=
  t.checks.foldlM (fun (acc : Option String) (name, e) =>
    match acc with
    | some n => pure (some n)
    | none => do
      let v ← eval evalFuel cx [{ frames := [t.frameOf t.name r] }] e
      pure (if v.truth == some false then some name else none)) none

/-- Checks the values of a row against the column types of a `STRICT` table. -/
def typeCheck (t : Table) (vals : List Value) : Except Fault Unit :=
  if !t.strict then .ok ()
  else
    (List.range t.columns.length).forM fun i => do
      let c := t.column i
      let v := vals.getD i .null
      let fits := match c.strictType, v with
        | none, _ | some _, .null => true
        | some ty, .integer _ => ty == "ANY" || ty == "INT" || ty == "INTEGER"
        | some ty, .real _ => ty == "ANY" || ty == "REAL"
        | some ty, .text _ => ty == "ANY" || ty == "TEXT"
        | some ty, .blob _ => ty == "ANY" || ty == "BLOB"
      if fits then pure ()
      else throw (Fault.of ("cannot store " ++ v.typeName ++ " value in " ++
        (c.strictType.getD "") ++ " column " ++ t.qualified i))

/-- The collation of an index term: the written one, else that of its expression. -/
def termCollation (t : Table) (term : IndexTerm) : Collation :=
  match term.collation.bind Collation.ofName? with
  | some c => c
  | none => collationOf [{ frames := [Frame.ofTable t t.name] }] term.expr

end Table

namespace Index

/-- The key of a row in an index: none when the row is outside a partial index or a term is
null, which no uniqueness rule then concerns. -/
def keyOf (cx : Context) (t : Table) (ix : Index) (r : Row) : Except Fault (Option (List Value)) := do
  let lv : List Level := [{ frames := [t.frameOf t.name r] }]
  let inside ← match ix.filter with
    | some f => do pure ((← eval evalFuel cx lv f).truth == some true)
    | none => pure true
  if !inside then return none
  let vs ← ix.terms.mapM fun term => eval evalFuel cx lv term.expr
  pure (if vs.any (·.isNull) then none else some vs)

/-- Whether two keys of an index are equal under its terms' collations. -/
def sameKey (t : Table) (ix : Index) (a b : List Value) : Bool :=
  (ix.terms.zip (a.zip b)).all fun (term, x, y) => Value.same (t.termCollation term) x y

/-- The first row of the table, other than one of an id, whose key equals a key. -/
def clash (cx : Context) (t : Table) (ix : Index) (key : List Value) (self : Option Int) :
    Except Fault (Option Row) :=
  t.rows.foldlM (fun (acc : Option Row) r =>
    match acc with
    | some found => pure (some found)
    | none =>
      if self == some r.rowid then pure none
      else do
        match ← ix.keyOf cx t r with
        | some k => pure (if ix.sameKey t key k then some r else none)
        | none => pure none) none

/-- Whether every term of an index is a column. -/
def onColumns (ix : Index) : Bool :=
  ix.terms.all fun term => term.expr matches .column _ _ _

/-- What a breach of an index's uniqueness names: its columns, or the index itself when it has
expressions. -/
def describe (t : Table) (ix : Index) : String :=
  if ix.onColumns then
    ", ".intercalate (ix.terms.map fun term =>
      match term.expr with
      | .column _ n _ => t.name ++ "." ++ ((t.columnIndex n).map fun i => (t.column i).name).getD n
      | _ => "")
  else "index '" ++ ix.name ++ "'"

/-- Whether an index's terms mention a column of a list (or the row id). -/
def mentions (ix : Index) (names : List String) : Bool :=
  ix.terms.any (fun term => term.expr.mentions names 1000) ||
    (ix.filter.map (·.mentions names 1000)).getD false

end Index

/-- The breach an upsert handles: the row id, or a unique index. -/
inductive UpsertKey where
  | rowid
  | index (name : String)
  deriving DecidableEq, Inhabited

namespace Table

/-- The key an upsert's target names: the row id for the row-id column alone, else the first
unique index whose terms are the target's terms in some order (a term without a collation
matches any), whose condition the target gives when the index is partial. -/
def upsertTarget (t : Table) (indexes : List Index) (target : List IndexTerm)
    (condition : Option Expr) : Option UpsertKey :=
  let isRowidTerm (term : IndexTerm) : Bool :=
    match term.expr, term.collation with
    | .column _ n _, none => match t.slot n with
      | some s => t.holdsRowid s
      | none => false
    | _, _ => false
  match target with
  | [term] =>
    if !t.withoutRowid && condition.isNone && isRowidTerm term then some .rowid
    else byIndex
  | _ => byIndex
where
  /-- The column a term names. -/
  termColumn (term : IndexTerm) : Option Nat :=
    match term.expr with
    | .column _ n _ => t.columnIndex n
    | _ => none
  /-- Whether a target term names an index term: the same column, and the same collation if
  the target writes one. -/
  fits (tt it : IndexTerm) : Bool :=
    let sameColumn := (termColumn tt).isSome && termColumn tt == termColumn it
    let sameCollation := match tt.collation with
      | none => true
      | some c => Collation.ofName? c == some (t.termCollation it)
    sameColumn && sameCollation
  /-- The first unique index that the target names. -/
  byIndex : Option UpsertKey :=
    let named := indexes.find? fun ix =>
      ix.unique && ix.terms.length == target.length && (ix.filter.isNone || condition.isSome) &&
        ix.terms.all fun it => target.any fun tt => fits tt it
    named.map fun ix => .index ix.name

end Table

end Sql

end TelemetryBridge
