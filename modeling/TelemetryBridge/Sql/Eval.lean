import TelemetryBridge.Sql.Scope
import TelemetryBridge.Sql.Window
import TelemetryBridge.Sql.Function.Aggregate
import TelemetryBridge.Sql.Function.JsonTree
import TelemetryBridge.Sql.Arithmetic

/-!
# Evaluating expressions and queries

Expressions are evaluated in a scope (see `Sql.Scope`); queries produce relations.

* **Operators.** `AND` and `OR` stop at a left operand that decides them; arithmetic and `||`
  are those of `Sql.Arithmetic`. A comparison converts its operands by the affinity of the two
  expressions (`Sql.comparisonAffinity`) and compares texts under a collation: the one written
  with `COLLATE` on the left, else on the right, else the left column's, else the right one's.
  `x IS TRUE` and its kin test truth rather than equality.
* **`IN`** compares by the affinity and collation of the left operand (with a subquery, by the
  affinities of both); it is null when nothing matches and a null was met.
* **Functions** are found by name and argument count; `coalesce`, `ifnull` and `iif` evaluate
  their arguments only as far as needed; an aggregate folds its arguments over the rows of the
  current group.
* **Queries.** A `SELECT` joins its sources (inner, left, right, full and cross joins, with
  `ON`, `USING` and `NATURAL`), filters, groups (groups come out in the order of their keys;
  without `GROUP BY` an aggregate query has one group, even over no rows), keeps the groups that
  pass `HAVING`, computes its result columns (bare columns come from the last row of the group,
  or the row of the single `min` or `max`), removes duplicates for `DISTINCT`, sorts by `ORDER
  BY` (stably, nulls first unless said otherwise) and cuts by `LIMIT` and `OFFSET`. `UNION`,
  `INTERSECT` and `EXCEPT` give their rows sorted and without duplicates, `UNION ALL` keeps both
  sides as they are.
* **Window functions** are computed after grouping and `HAVING`, one call at a time from the
  last to the first: each sorts the rows stably by its partition and order and adds its value
  to each row (see `Sql.Window`). The rows thus come out sorted by the first call's window,
  rows it does not tell apart by the next one's, and so on; `DISTINCT`, `ORDER BY` and `LIMIT`
  apply after.
* **Table functions** (`json_each`, `json_tree`) give rows computed from their arguments,
  which may name the columns of the sources to their left.
* **Common table expressions** are evaluated where they are used; one whose later parts refer to
  itself is recursive: its first part fills a queue, and each row taken from the queue is output
  and fed to the later parts, whose rows join the queue.

Main definitions: `Sql.Fault`, `Sql.Context`, `Sql.eval`, `Sql.evalQuery`.
-/

namespace TelemetryBridge

namespace Sql

/-- Why evaluation stopped: a message, and what the failure does to the statement: `abort`
undoes it, `fail` keeps what it did so far, `rollback` undoes the transaction, `ignore` (from
`RAISE(IGNORE)`) skips the row at hand. -/
structure Fault where
  message : String
  action : Conflict := .abort
  deriving Inhabited

/-- A failure that undoes the statement. -/
def Fault.of (m : String) : Fault := { message := m }

/-- Lifts a failure message into a fault. -/
def orFault {α : Type} : Except String α → Except Fault α
  | .ok a => .ok a
  | .error m => .error (Fault.of m)

/-- A common table expression in scope. -/
structure Binding where
  name : String
  columns : Option (List String)
  query : Query
  /-- How many bindings its body sees: those of its `WITH` and the ones outside. -/
  depth : Nat
  /-- The rows it stands for while its recursive part runs. -/
  rows : Option Relation := none
  deriving Inhabited

/-- What evaluation reads: the database, the connection's counters, the common table
expressions in scope, and whether a trigger is running (which `RAISE` needs). -/
structure Context where
  db : Database
  counters : Counters := {}
  ctes : List Binding := []
  deriving Inhabited

namespace Context

/-- The context with the common table expressions of a `WITH` in scope. -/
def push (cx : Context) (ctes : List Cte) : Context :=
  let depth := cx.ctes.length + ctes.length
  { cx with ctes := ctes.map (fun
      | .cte n cols q => ({ name := n, columns := cols, query := q, depth } : Binding)) ++ cx.ctes }

/-- The common table expression of a name. -/
def cte? (cx : Context) (n : String) : Option Binding := cx.ctes.find? fun b => sameName b.name n

/-- The bindings a common table expression's body sees. -/
def scopeOf (cx : Context) (b : Binding) : Context :=
  { cx with ctes := cx.ctes.drop (cx.ctes.length - b.depth) }

end Context

/-- A table or view found by name. -/
inductive Named where
  | table (t : Table)
  | view (v : View)
  deriving Inhabited

/-- The table or view of a name: the temporary schema first, then the file's. -/
def Database.named? (db : Database) (n : String) : Option Named :=
  match db.temp.table? n, db.temp.view? n, db.main.table? n, db.main.view? n with
  | some t, _, _, _ => some (.table t)
  | _, some v, _, _ => some (.view v)
  | _, _, some t, _ => some (.table t)
  | _, _, _, some v => some (.view v)
  | _, _, _, _ => none

namespace Expr

/-- The operands of an expression that pass collation marks up: operands, arguments and the
parts of `CASE` and of lists, not subqueries. -/
def parts : Expr → List Expr
  | .unary _ a | .isNull a _ | .collate a _ | .cast a _ | .inQuery a _ _ => [a]
  | .binary _ a b => [a, b]
  | .between a l h _ => [a, l, h]
  | .inList a items _ => a :: items
  | .pattern _ a p esc _ => [p, a] ++ esc.toList
  | .call _ _ _ args _ _ | .window _ _ args _ _ _ => args
  | .cases b arms o => b.toList ++ arms.flatMap (fun (w, t) => [w, t]) ++ o.toList
  | .vector items => items
  | _ => []

/-- The left operand of an expression, for the collation search. -/
def leftPart : Expr → Option Expr
  | .unary _ a | .isNull a _ | .collate a _ | .cast a _ | .inQuery a _ _ | .binary _ a _
  | .between a _ _ _ | .inList a _ _ => some a
  | .cases b _ _ => b
  | _ => none

/-- The right operand of a binary expression. -/
def rightPart : Expr → Option Expr
  | .binary _ _ b => some b
  | _ => none

/-- The listed operands of an expression, for the collation search. -/
def listParts : Expr → List Expr
  | .between _ l h _ => [l, h]
  | .inList _ items _ => items
  | .pattern _ a p esc _ => [p, a] ++ esc.toList
  | .call _ _ _ args _ _ | .window _ _ args _ _ _ => args
  | .cases _ arms o => arms.flatMap (fun (w, t) => [w, t]) ++ o.toList
  | .vector items => items
  | _ => []

/-- Whether an expression has a `COLLATE` among its operands, at any depth. -/
def marked : Nat → Expr → Bool
  | 0, _ => false
  | fuel + 1, e =>
    match e with
    | .collate _ _ => true
    | e => e.parts.any (marked fuel)

/-- Whether an expression calls an aggregate function outside of subqueries. -/
def aggregates : Nat → Expr → Bool
  | 0, _ => false
  | fuel + 1, e =>
    match e with
    | .call n _ _ args _ _ =>
      (match Function.classify (nameKey n) args.length with
        | .ok .aggregate => true
        | _ => false) || args.any (aggregates fuel)
    | .window _ _ args _ filter win =>
      let own := match win with
        | .spec _ partition order _ => partition ++ order.map fun (.term e _ _) => e
        | .named _ => []
      (args ++ filter.toList ++ own).any (aggregates fuel)
    | e => e.parts.any (aggregates fuel)

/-- Whether a JSON function made an argument's value, so that JSON functions take it as JSON. -/
def isJson : Expr → Bool
  | .call n _ _ _ _ _ | .window n _ _ _ _ _ => Function.makesJson (nameKey n)
  | .binary .extract _ _ => true
  | _ => false

/-- The integer an `ORDER BY` or `GROUP BY` term names a result column by. -/
def columnNumber? : Expr → Option Int
  | .lit (.integer k) => some k
  | .unary .plus e => e.columnNumber?
  | .unary .negate (.lit (.integer k)) => some (-k)
  | _ => none

end Expr

/-- The collation an expression compares texts under: a column's own, one written with
`COLLATE`, or the first such found among the operands that carry a `COLLATE`. -/
def collationIn : Nat → List Level → Expr → Option Collation
  | 0, _, _ => none
  | fuel + 1, lv, e =>
    match e with
    | .column t n dq =>
      match lookup lv t n dq with
      | .ok (.column _ _ _ f) => f.collation
      | .ok (.resultAlias d a) => collationIn fuel (lv.drop d) a
      | _ => none
    | .cast a _ | .unary .plus a => collationIn fuel lv a
    | .collate _ n => Collation.ofName? n
    | e =>
      let next : Option Expr := (e.listParts.find? (·.marked 1000)) <|> e.rightPart
      if e.marked 1000 then
        match e.leftPart with
        | some l =>
          if l.marked 1000 then collationIn fuel lv l
          else match next with
            | some n => collationIn fuel lv n
            | none => none
        | none =>
          match next with
          | some n => collationIn fuel lv n
          | none => none
      else none

/-- The collation a comparison of two expressions uses. -/
def pairCollation (lv : List Level) (a b : Expr) : Collation :=
  let c :=
    if a.marked 1000 then collationIn 1000 lv a
    else if b.marked 1000 then collationIn 1000 lv b
    else collationIn 1000 lv a <|> collationIn 1000 lv b
  c.getD .binary

/-- The collation of an expression, binary when it has none. -/
def collationOf (lv : List Level) (e : Expr) : Collation := (collationIn 1000 lv e).getD .binary

/-- `CAST(x AS NUMERIC)` of a text: an integer when the text reads as one (or has no number
but leading digits or none), or when its double is a small whole number; else the double. -/
def numerify (s : String) : Value :=
  let r := NumberText.read s
  let (n, kind) := leadingInteger s
  if (r.kind == .noNumber || r.kind == .pureInteger) &&
      (kind == .noDigits || kind == .exact || kind == .extraText) then .integer n
  else
    let i := clampToInt r.value
    if sameAsSmallInt r.value i then .integer i else .real r.value

/-- The value of `CAST(v AS type)`. -/
def castValue (type : String) (v : Value) : Value :=
  if v.isNull then .null
  else
    match Affinity.ofType type with
    | .blob =>
      match v with
      | .blob _ => v
      | v => .blob (Bytes.ofString v.asText)
    | .numeric =>
      match v with
      | .text s => numerify s
      | .blob b => numerify (Value.bytesText b)
      | v => v
    | .integer => .integer v.intValue
    | .real => .real v.realValue
    | .text => .text v.asText

/-- The truth constant a right operand of `IS` names: `TRUE` or `FALSE` when no column of that
name is in scope. -/
def truthConstant (lv : List Level) : Expr → Option Bool
  | .column none n false =>
    match lookup lv none n false with
    | .ok (.constant (.integer 1)) => if nameKey n == "TRUE" then some true else none
    | .ok (.constant (.integer 0)) => if nameKey n == "FALSE" then some false else none
    | _ => none
  | _ => none

/-- The three-valued conjunction of two truths. -/
def bothTrue (x y : Value) : Value :=
  match x.truth, y.truth with
  | some false, _ | _, some false => .integer 0
  | some true, some true => .integer 1
  | _, _ => .null

/-- The three-valued negation of a truth. -/
def notValue (v : Value) : Value := Value.ofTruth (v.truth.map (!·))

/-- The number of values an expression stands for: the items of a row value, the result columns
of a subquery as written, else one. -/
def vectorSize : Expr → Nat
  | .vector items => items.length
  | .subquery (.query _ _ (.select _ cols _ _ _ _ _) _ _ _ _) => cols.length
  | .subquery (.query _ _ (.values rows) _ _ _ _) => (rows.headD []).length
  | _ => 1

/-- An item of a row value in a comparison: its value, the affinity and collation it brings,
and whether a `COLLATE` names that collation. -/
structure RowItem where
  value : Value
  affinity : Option Affinity := none
  collation : Option Collation := none
  marked : Bool := false
  deriving Inhabited

/-- How an item of a row value compares with the item of another in the same place: under the
affinity both bring, and the collation a `COLLATE` names, else the first either has. -/
def RowItem.compareWith (o : CompareOp) (x y : RowItem) : Value :=
  let coll :=
    if x.marked then x.collation
    else if y.marked then y.collation
    else x.collation <|> y.collation
  compareOp o (comparisonAffinity x.affinity y.affinity) (coll.getD .binary) x.value y.value

/-- Row values are equal when every item is: false when some item differs, else null when an
item is null. -/
def rowsEqual (xs ys : List RowItem) : Value :=
  let rs := List.zipWith (RowItem.compareWith .eq) xs ys
  if rs.any (·.truth == some false) then .integer 0
  else if rs.any Value.isNull then .null
  else .integer 1

/-- An ordering of row values: the first items that are not equal decide, and the result is
null when one of them is null; the last items decide under the operator itself, so that equal
rows satisfy `<=` and `>=`. -/
def rowsOrdered (o : CompareOp) : List RowItem → List RowItem → Value
  | [x], [y] => x.compareWith o y
  | x :: xs, y :: ys =>
    match (x.compareWith .eq y).truth with
    | some true => rowsOrdered o xs ys
    | some false => x.compareWith (if o == .lt || o == .le then .lt else .gt) y
    | none => .null
  | _, _ => .null

/-- A comparison of two row values of the same size. -/
def compareRowValues (o : CompareOp) (xs ys : List RowItem) : Value :=
  let same := (List.zipWith (RowItem.compareWith .is) xs ys).all (·.truth == some true)
  match o with
  | .eq => rowsEqual xs ys
  | .ne => notValue (rowsEqual xs ys)
  | .is => .integer (if same then 1 else 0)
  | .isNot => .integer (if same then 0 else 1)
  | _ => rowsOrdered o xs ys

/-- Compares two rows of values under collations for sorting: nulls first. -/
def compareRows (colls : List Collation) : List Value → List Value → Ordering
  | a :: as, b :: bs =>
    match (a.order (colls.headD .binary) b) with
    | .eq => compareRows colls.tail as bs
    | o => o
  | _, _ => .eq

/-- Whether two rows hold the same values under collations (nulls the same as each other). -/
def sameRow (colls : List Collation) (a b : List Value) : Bool := compareRows colls a b == .eq

/-- Removes later duplicates of rows. -/
def distinctRows {α : Type} (colls : List Collation) (key : α → List Value) (rows : List α) :
    List α :=
  rows.foldl (fun acc r => if acc.any (fun s => sameRow colls (key s) (key r)) then acc else acc ++ [r]) []

/-- Cuts rows by an offset and a limit (none for no limit). -/
def cutRows {α : Type} (offset : Nat) (limit : Option Nat) (rows : List α) : List α :=
  let rest := rows.drop offset
  match limit with
  | some n => rest.take n
  | none => rest

/-- The whole number a `LIMIT` or `OFFSET` value must be: a text or double that is one counts. -/
def limitNumber (v : Value) : Except Fault Int :=
  match Affinity.numeric.apply v with
  | .integer n => .ok n
  | _ => .error (Fault.of "datatype mismatch")

/-- The fields of a frame that `t.*` gives: all but the hidden ones. -/
def Frame.shownFields (f : Frame) : List (Field × Value) :=
  (f.fields.zipIdx.map fun (c, i) => (c, f.value i)).filter fun (c, _) => !c.hidden

/-- The fields of a frame that `*` gives: the shown ones but the columns merged into a frame on
the left. -/
def Frame.starFields (f : Frame) : List (Field × Value) :=
  f.shownFields.filter fun (c, _) => !f.merged.any (sameName · c.name)

/-- Whether a name is a table function: `json_each` or `json_tree`. -/
def isTableFunction (n : String) : Bool := sameName n "json_each" || sameName n "json_tree"

/-- The frame of a table function's rows. -/
def functionFrame (shown : String) : Frame :=
  { name := some shown, hasRowid := true,
    fields := Json.walkColumns.zipIdx.map fun (c, i) => { name := c, hidden := i ≥ 8 } }

/-- The name of a result column without an alias: the column's name for a column, else the text. -/
def derivedName (lv : List Level) (e : Expr) (text : String) : String :=
  let base := match e with
    | .collate a _ => a
    | a => a
  match base with
  | .column t n dq =>
    match lookup lv t n dq with
    | .ok (.column _ _ _ f) => f.name
    | .ok (.rowid _ _) => "rowid"
    | _ => text
  | _ => text

/-- The label of a new table's column: its name, or `columnN` for a name that is `TRUE` or
`FALSE`. -/
def columnLabel (i : Nat) (n : String) : String :=
  if nameKey n == "TRUE" || nameKey n == "FALSE" then "column" ++ toString (i + 1) else n

/-- Marks the columns of the right side of a join that `USING` or `NATURAL` merge. -/
def mergeFrames (names : List String) (fs : List Frame) : List Frame :=
  fs.map fun f =>
    { f with merged := f.merged ++ names.filter fun n => f.fields.any (sameName ·.name n) }

/-- The value of the first frame among some that has a column. -/
def columnValue? (fs : List Frame) (n : String) : Option (Field × Value) :=
  fs.findSome? fun f =>
    match f.fields.findIdx? (sameName ·.name n) with
    | some j => some (f.fields.getD j default, f.value j)
    | none => none

/-- Whether a name is a column of some frame. -/
def hasColumn (fs : List Frame) (n : String) : Bool := (columnValue? fs n).isSome

/-- The selects of a query, left to right. -/
def Query.selects : Query → List Select
  | .query _ _ first rest _ _ _ => first :: rest.map (·.2)

/-- Whether a source names a table (directly or in a join). -/
def Source.names (n : String) : Source → Bool
  | .table t _ => sameName t n
  | .query _ _ | .function .. => false
  | .join l _ _ r _ _ => l.names n || r.names n

/-- Whether a select reads a table of a name in its `FROM` clause. -/
def Select.reads (n : String) : Select → Bool
  | .select _ _ (some s) _ _ _ _ => s.names n
  | _ => false

/-- The fuel that bounds the depth of evaluation. -/
def evalFuel : Nat := 100000

/-- The most rows a recursive common table expression produces. -/
def recursionLimit : Nat := 100000

/-- The word of a compound operator in messages. -/
def setOpWord : SetOp → String
  | .union => "UNION"
  | .unionAll => "UNION ALL"
  | .intersect => "INTERSECT"
  | .except => "EXCEPT"

/-- The three-valued result of `IN` from the comparisons with each item. -/
def membership (cmps : List Value) (lhsNull : Bool) (anyNull : Bool) : Value :=
  if cmps.any (·.truth == some true) then .integer 1
  else if lhsNull || anyNull then .null
  else .integer 0

/-- Rows without duplicates, sorted by all their columns. -/
def sortedDistinct (colls : List Collation) (rows : List (List Value)) : List (List Value) :=
  (distinctRows colls id rows).mergeSort fun a b => compareRows colls a b != .gt

/-- The result column a compound query's `ORDER BY` term names: by number, by the name of a
column of the first select, or by an expression that is a result column. -/
def compoundColumn (fields : List Field) (sels : List Select) (e : Expr) : Except Fault Nat :=
  match e.columnNumber? with
  | some k => if 1 ≤ k && k ≤ fields.length then .ok (k.toNat - 1)
    else .error (Fault.of "ORDER BY term out of range")
  | none =>
    match e with
    | .column none n _ =>
      match fields.findIdx? (sameName ·.name n) with
      | some i => .ok i
      | none => .error (Fault.of "1st ORDER BY term does not match any column in the result set")
    | _ =>
      let _ := sels
      .error (Fault.of "1st ORDER BY term does not match any column in the result set")

/-- The result column an `ORDER BY` term of a simple query names: by alias or by number. -/
def resultIndex (cols : List ResultColumn) (e : Expr) : Option Nat :=
  match e with
  | .column none n _ =>
    cols.findIdx? fun
      | .expr _ (some a) _ => sameName a n
      | _ => false
  | e =>
    match e.columnNumber? with
    | some k => if k ≥ 1 then some (k.toNat - 1) else none
    | none => none

/-- The single `min` or `max` aggregate of result columns, whose row the bare columns take. -/
def bareExtreme (cols : List ResultColumn) : Option (Bool × Expr) :=
  let calls := cols.filterMap fun
    | .expr (.call n _ _ [arg] _ _) _ _ =>
      let k := nameKey n
      if k == "MIN" || k == "MAX" then some (k == "MAX", arg) else none
    | _ => none
  let aggregatesCount := (cols.filter fun
    | .expr e _ _ => e.aggregates 1000
    | _ => false).length
  match calls with
  | [c] => if aggregatesCount == 1 then some c else none
  | _ => none

/-- Fields renamed to unique names. -/
def renamed (fs : List Field) : List Field :=
  (fs.zip (uniqueNames (fs.zipIdx.map fun (f, i) => columnLabel i f.name))).map fun (f, n) =>
    { f with name := n }

/-- Fields under the names a view or common table expression gives. -/
def relabel (name : String) (names : Option (List String)) (fs : List Field) :
    Except Fault (List Field) :=
  match names with
  | none => .ok fs
  | some ns =>
    if ns.length != fs.length then
      .error (Fault.of ("table " ++ name ++ " has " ++ toString fs.length ++ " values for " ++
        toString ns.length ++ " columns"))
    else .ok ((fs.zip ns).map fun (f, n) => { f with name := n })

/-- The columns two sides of a join are joined on: the `USING` list, or for `NATURAL` the
names of the right side's columns that the left side has too. -/
def joinNames (lf rf : List Frame) (natural : Bool) (cols : List String) :
    Except Fault (List String) :=
  if natural then
    .ok ((rf.flatMap fun f => f.fields.map (·.name)).filter (hasColumn lf ·))
  else
    match cols.find? fun n => !(hasColumn lf n && hasColumn rf n) with
    | some n => .error (Fault.of ("cannot join using column " ++ n ++
        " - column not present in both tables"))
    | none => .ok cols

mutual

/-- The affinity of an expression: a column's, a `CAST`'s type, a scalar subquery's first
column; none for other expressions. -/
def affinityOf : Nat → Context → List Level → Expr → Option Affinity
  | 0, _, _, _ => none
  | fuel + 1, cx, lv, e =>
    match e with
    | .column t n dq =>
      match lookup lv t n dq with
      | .ok (.column _ _ _ f) => f.affinity
      | .ok (.rowid _ _) => some .integer
      | .ok (.resultAlias d a) => affinityOf fuel cx (lv.drop d) a
      | _ => none
    | .subquery q =>
      match queryFields fuel cx lv q with
      | .ok (f :: _) => f.affinity
      | _ => none
    | .cast _ ty => some (Affinity.ofType ty)
    | .collate a _ => affinityOf fuel cx lv a
    | .vector (a :: _) => affinityOf fuel cx lv a
    | _ => none

/-- The declared type a result column reports: a column's, or a scalar subquery's first. -/
def declaredOf : Nat → Context → List Level → Expr → String
  | 0, _, _, _ => ""
  | fuel + 1, cx, lv, e =>
    match e with
    | .column t n dq =>
      match lookup lv t n dq with
      | .ok (.column _ _ _ f) => f.declared
      | .ok (.rowid _ _) => "INTEGER"
      | .ok (.resultAlias d a) => declaredOf fuel cx (lv.drop d) a
      | _ => ""
    | .subquery q =>
      match queryFields fuel cx lv q with
      | .ok (f :: _) => f.declared
      | _ => ""
    | _ => ""

/-- The columns of a query's result, without evaluating it. -/
def queryFields : Nat → Context → List Level → Query → Except Fault (List Field)
  | 0, _, _, _ => .error (Fault.of "query is too deep")
  | fuel + 1, cx, lv, .query ctes _ first _ _ _ _ => coreFields fuel (cx.push ctes) lv first

/-- The columns of one `SELECT` or `VALUES`. -/
def coreFields : Nat → Context → List Level → Select → Except Fault (List Field)
  | 0, _, _, _ => .error (Fault.of "query is too deep")
  | fuel + 1, cx, lv, s =>
    match s with
    | .values rows =>
      let first := rows.headD []
      pure (first.zipIdx.map fun (e, i) =>
        { name := "column" ++ toString (i + 1), affinity := affinityOf fuel cx ({} :: lv) e,
          collation := collationIn 1000 ({} :: lv) e })
    | .select _ cols src _ _ _ _ => do
      let frames ← match src with
        | some s => templates fuel cx lv s
        | none => pure []
      resultFields fuel cx ({ frames } :: lv) frames cols

/-- The fields of result columns over frames. -/
def resultFields : Nat → Context → List Level → List Frame → List ResultColumn →
    Except Fault (List Field)
  | 0, _, _, _, _ => .error (Fault.of "query is too deep")
  | fuel + 1, cx, lv, frames, cols =>
    cols.flatMapM fun
      | .all =>
        if frames.isEmpty then throw (Fault.of "no tables specified")
        else pure (frames.flatMap fun f => f.starFields.map (·.1))
      | .allOf t =>
        match frames.find? fun f => (f.name.map (sameName · t)).getD false with
        | some f => pure (f.shownFields.map (·.1))
        | none => throw (Fault.of ("no such table: " ++ t))
      | .expr e asName text =>
        pure [{ name := asName.getD (derivedName lv e text), affinity := affinityOf fuel cx lv e,
                collation := collationIn 1000 lv e, declared := declaredOf fuel cx lv e }]

/-- The frames of a source, without rows. -/
def templates : Nat → Context → List Level → Source → Except Fault (List Frame)
  | 0, _, _, _ => .error (Fault.of "query is too deep")
  | fuel + 1, cx, lv, src =>
    match src with
    | .table name asName =>
      match cx.cte? name with
      | some b => do
        let fs ← bindingFields fuel cx b
        pure [{ name := some (asName.getD b.name), fields := fs }]
      | none =>
        match catalogueOf? name with
        | some _ => pure [{ name := some (asName.getD name), fields := catalogueFields, hasRowid := true }]
        | none =>
          match cx.db.named? name with
          | some (.table t) => pure [Frame.ofTable t (asName.getD t.name)]
          | some (.view v) => do
            let fs ← viewFields fuel cx v
            pure [{ name := some (asName.getD v.name), fields := fs }]
          | none => throw (Fault.of ("no such table: " ++ name))
    | .query q asName => do
      let fs ← queryFields fuel cx lv q
      pure [{ name := asName, fields := renamed fs }]
    | .function name _ asName =>
      let notFunction := Fault.of ("'" ++ name ++ "' is not a function")
      match cx.cte? name with
      | some _ => throw notFunction
      | none =>
        if (catalogueOf? name).isSome || (cx.db.named? name).isSome then throw notFunction
        else if isTableFunction name then pure [functionFrame (asName.getD name)]
        else throw (Fault.of ("no such table: " ++ name))
    | .join l _ natural r on cols => do
      let lf ← templates fuel cx lv l
      let rf ← templates fuel cx lv r
      if natural && (on.isSome || !cols.isEmpty) then
        throw (Fault.of "a NATURAL join may not have an ON or USING clause")
      let names ← joinNames lf rf natural cols
      pure (lf ++ mergeFrames names rf)

/-- The fields of a view: its query's, under the view's column names when it gives them. -/
def viewFields : Nat → Context → View → Except Fault (List Field)
  | 0, _, _ => .error (Fault.of "query is too deep")
  | fuel + 1, cx, v => do
    let fs ← queryFields fuel { cx with ctes := [] } [] v.query
    relabel v.name v.columns (renamed fs)

/-- The fields of a common table expression. -/
def bindingFields : Nat → Context → Binding → Except Fault (List Field)
  | 0, _, _ => .error (Fault.of "query is too deep")
  | fuel + 1, cx, b =>
    match b.rows with
    | some rel => pure rel.fields
    | none => do
      let fs ← queryFields fuel (cx.scopeOf b) [] b.query
      relabel b.name b.columns (renamed fs)

/-- The value of an expression in a scope. -/
def eval : Nat → Context → List Level → Expr → Except Fault Value
  | 0, _, _, _ => .error (Fault.of "Expression tree is too large (maximum depth 1000)")
  | fuel + 1, cx, lv, e =>
    match e with
    | .lit v => pure v
    | .wide n => pure (.real (Float.ofNat n))
    | .param => pure .null
    | .column t n dq =>
      match lookup lv t n dq with
      | .error m => throw (Fault.of m)
      | .ok (.resultAlias d a) => eval fuel cx (lv.drop d) a
      | .ok r => pure (r.read lv)
    | .unary op a =>
      match op, a with
      | .negate, .wide n => pure (if n == 2 ^ 63 then .integer minInt else .real (-(Float.ofNat n)))
      | _, _ => do
        let v ← eval fuel cx lv a
        pure (match op with
          | .negate => negate v
          | .plus => v
          | .bitNot => bitNot v
          | .not => notValue v)
    | .binary op a b =>
      match op with
      | .and => do
        let x ← eval fuel cx lv a
        if x.truth == some false then pure (.integer 0)
        else pure (bothTrue x (← eval fuel cx lv b))
      | .or => do
        let x ← eval fuel cx lv a
        if x.truth == some true then pure (.integer 1)
        else
          let y ← eval fuel cx lv b
          pure (match x.truth, y.truth with
            | _, some true => .integer 1
            | some false, some false => .integer 0
            | _, _ => .null)
      | .is | .isNot =>
        match truthConstant lv b with
        | some t => do
          let x ← eval fuel cx lv a
          let r := (x.truth.getD !t) == t
          pure (.integer (if r == (op == .is) then 1 else 0))
        | none => compare fuel cx lv (if op == .is then .is else .isNot) a b
      | .eq => compare fuel cx lv .eq a b
      | .ne => compare fuel cx lv .ne a b
      | .lt => compare fuel cx lv .lt a b
      | .le => compare fuel cx lv .le a b
      | .gt => compare fuel cx lv .gt a b
      | .ge => compare fuel cx lv .ge a b
      | .extract | .extractValue => do
        let x ← eval fuel cx lv a
        let y ← eval fuel cx lv b
        orFault (Function.call cx.counters .binary (if op == .extract then "->" else "->>")
          [{ value := x, json := a.isJson }, { value := y }])
      | _ => do
        let x ← eval fuel cx lv a
        let y ← eval fuel cx lv b
        pure (match op with
          | .add => arith .add x y
          | .sub => arith .sub x y
          | .mul => arith .mul x y
          | .div => arith .div x y
          | .rem => arith .rem x y
          | .concat => concatValues x y
          | .bitAnd => bitwise .and x y
          | .bitOr => bitwise .or x y
          | .shiftLeft => bitwise .shiftLeft x y
          | _ => bitwise .shiftRight x y)
    | .isNull a negated => do
      let v ← eval fuel cx lv a
      pure (.integer (if v.isNull != negated then 1 else 0))
    | .between a lo hi negated => do
      if vectorSize a ≥ 2 then
        let r := bothTrue (← compare fuel cx lv .ge a lo) (← compare fuel cx lv .le a hi)
        return (if negated then notValue r else r)
      let x ← eval fuel cx lv a
      let l ← eval fuel cx lv lo
      let h ← eval fuel cx lv hi
      let affA := affinityOf fuel cx lv a
      let c1 := compareOp .ge (comparisonAffinity affA (affinityOf fuel cx lv lo))
        (pairCollation lv a lo) x l
      let c2 := compareOp .le (comparisonAffinity affA (affinityOf fuel cx lv hi))
        (pairCollation lv a hi) x h
      let r := bothTrue c1 c2
      pure (if negated then notValue r else r)
    | .inList a items negated => do
      let x ← eval fuel cx lv a
      if items.isEmpty then pure (.integer (if negated then 1 else 0))
      else
        let vs ← items.mapM (eval fuel cx lv)
        let aff := affinityOf fuel cx lv a
        let coll := collationOf lv a
        let r := membership (vs.map fun v => compareOp .eq aff coll x v) x.isNull (vs.any Value.isNull)
        pure (if negated then notValue r else r)
    | .inQuery a q negated => do
      let rel ← evalQuery fuel cx lv q
      if let some xs ← rowItems fuel cx lv a then
        let found := rel.rows.map fun row =>
          rowsEqual xs (List.zipWith (fun (f : Field) v =>
            ({ value := v, affinity := f.affinity, collation := f.collation } : RowItem))
            rel.fields row)
        let r := membership found false (found.any Value.isNull)
        return (if negated then notValue r else r)
      let x ← eval fuel cx lv a
      if rel.rows.isEmpty then pure (.integer (if negated then 1 else 0))
      else
        let f := rel.fields.headD default
        let aff := comparisonAffinity (affinityOf fuel cx lv a) f.affinity
        let coll := if a.marked 1000 then collationOf lv a
          else ((collationIn 1000 lv a) <|> f.collation).getD .binary
        let vs := rel.rows.map fun r => r.headD .null
        let r := membership (vs.map fun v => compareOp .eq aff coll x v) x.isNull (vs.any Value.isNull)
        pure (if negated then notValue r else r)
    | .pattern m a pat esc negated => do
      let p ← eval fuel cx lv pat
      let x ← eval fuel cx lv a
      let ev ← match esc with
        | some z => some <$> eval fuel cx lv z
        | none => pure none
      let r ← orFault (Function.patternMatch (m == .glob) p x ev)
      pure (if negated then notValue r else r)
    | .collate a _ => eval fuel cx lv a
    | .cast a ty => castValue ty <$> eval fuel cx lv a
    | .call n written distinct args star filter =>
      let key := nameKey n
      let _ := star
      match Function.classify key args.length with
      | .error .noSuchFunction => throw (Fault.of ("no such function: " ++ written))
      | .error .wrongArguments =>
        throw (Fault.of ("wrong number of arguments to function " ++ written ++ "()"))
      | .ok .window => throw (Fault.of ("misuse of window function " ++ written ++ "()"))
      | .ok .aggregate => aggregateCall fuel cx lv key distinct args filter
      | .ok .scalar =>
        match key with
        | "COALESCE" | "IFNULL" => firstNotNull fuel cx lv args
        | "IIF" | "IF" => chooseArm fuel cx lv args
        | "LIKELY" | "UNLIKELY" | "LIKELIHOOD" => eval fuel cx lv (args.headD (.lit .null))
        | _ => do
          let vs ← args.mapM fun x => do
            let v ← eval fuel cx lv x
            pure ({ value := v, json := x.isJson } : Arg)
          let coll := (args.findSome? (collationIn 1000 lv)).getD .binary
          orFault (Function.call cx.counters coll key vs)
    | .cases base arms otherwise =>
      match base with
      | none => caseArms fuel cx lv arms otherwise
      | some b => do
        let x ← eval fuel cx lv b
        caseBase fuel cx lv b x arms otherwise
    | .exists q => do
      let rel ← evalQuery fuel cx lv q
      pure (.integer (if rel.rows.isEmpty then 0 else 1))
    | .subquery q => do
      let rel ← evalQuery fuel cx lv q
      pure ((rel.rows.head?.bind List.head?).getD .null)
    | .raise kind message =>
      match kind with
      | .ignore => throw { message := "", action := .ignore }
      | .rollback => throw { message, action := .rollback }
      | .abort => throw { message, action := .abort }
      | .fail => throw { message, action := .fail }
    | .vector items =>
      match items with
      | [x] => eval fuel cx lv x
      | _ => throw (Fault.of "row value misused")
    | .window _ written _ _ _ _ => throw (Fault.of ("misuse of window function " ++ written ++ "()"))

/-- A comparison of two expressions. -/
def compare : Nat → Context → List Level → CompareOp → Expr → Expr → Except Fault Value
  | 0, _, _, _, _, _ => .error (Fault.of "Expression tree is too large (maximum depth 1000)")
  | fuel + 1, cx, lv, o, a, b => do
    match ← rowItems fuel cx lv a, ← rowItems fuel cx lv b with
    | some xs, some ys => pure (compareRowValues o xs ys)
    | _, _ =>
      let x ← eval fuel cx lv a
      let y ← eval fuel cx lv b
      let aff := comparisonAffinity (affinityOf fuel cx lv a) (affinityOf fuel cx lv b)
      pure (compareOp o aff (pairCollation lv a b) x y)

/-- The items of a row value of several items: those of a list, or the first row of a subquery
of several columns (nulls when it has no row); none for a single value. -/
def rowItems : Nat → Context → List Level → Expr → Except Fault (Option (List RowItem))
  | 0, _, _, _ => .error (Fault.of "Expression tree is too large (maximum depth 1000)")
  | fuel + 1, cx, lv, e =>
    if vectorSize e < 2 then pure none
    else
      match e with
      | .vector items => do
        let vs ← items.mapM (eval fuel cx lv)
        pure (some (List.zipWith (fun x v =>
          ({ value := v, affinity := affinityOf fuel cx lv x, collation := collationIn 1000 lv x,
             marked := x.marked 1000 } : RowItem)) items vs))
      | .subquery q => do
        let rel ← evalQuery fuel cx lv q
        let row := rel.rows.headD (rel.fields.map fun _ => .null)
        pure (some (List.zipWith (fun (f : Field) v =>
          ({ value := v, affinity := f.affinity, collation := f.collation } : RowItem))
          rel.fields row))
      | _ => pure none

/-- `coalesce` and `ifnull`: the first argument that is not null. -/
def firstNotNull : Nat → Context → List Level → List Expr → Except Fault Value
  | 0, _, _, _ => .error (Fault.of "Expression tree is too large (maximum depth 1000)")
  | fuel + 1, cx, lv, args =>
    match args with
    | [] => pure .null
    | x :: rest => do
      let v ← eval fuel cx lv x
      if v.isNull then firstNotNull fuel cx lv rest else pure v

/-- `iif`: the value after the first true condition, else the last odd argument. -/
def chooseArm : Nat → Context → List Level → List Expr → Except Fault Value
  | 0, _, _, _ => .error (Fault.of "Expression tree is too large (maximum depth 1000)")
  | fuel + 1, cx, lv, args =>
    match args with
    | c :: x :: rest => do
      let v ← eval fuel cx lv c
      if v.truth == some true then eval fuel cx lv x else chooseArm fuel cx lv rest
    | [x] => eval fuel cx lv x
    | [] => pure .null

/-- `CASE WHEN`: the result of the first true condition. -/
def caseArms : Nat → Context → List Level → List (Expr × Expr) → Option Expr → Except Fault Value
  | 0, _, _, _, _ => .error (Fault.of "Expression tree is too large (maximum depth 1000)")
  | fuel + 1, cx, lv, arms, otherwise =>
    match arms with
    | [] =>
      match otherwise with
      | some o => eval fuel cx lv o
      | none => pure .null
    | (w, t) :: rest => do
      let c ← eval fuel cx lv w
      if c.truth == some true then eval fuel cx lv t else caseArms fuel cx lv rest otherwise

/-- `CASE base WHEN`: the result of the first value equal to the base. -/
def caseBase : Nat → Context → List Level → Expr → Value → List (Expr × Expr) → Option Expr →
    Except Fault Value
  | 0, _, _, _, _, _, _ => .error (Fault.of "Expression tree is too large (maximum depth 1000)")
  | fuel + 1, cx, lv, b, x, arms, otherwise =>
    match arms with
    | [] =>
      match otherwise with
      | some o => eval fuel cx lv o
      | none => pure .null
    | (w, t) :: rest => do
      let y ← eval fuel cx lv w
      let aff := comparisonAffinity (affinityOf fuel cx lv b) (affinityOf fuel cx lv w)
      let c := compareOp .eq aff (pairCollation lv b w) x y
      if c.truth == some true then eval fuel cx lv t else caseBase fuel cx lv b x rest otherwise

/-- An aggregate call over the rows of the current group. -/
def aggregateCall : Nat → Context → List Level → String → Bool → List Expr → Option Expr →
    Except Fault Value
  | 0, _, _, _, _, _, _ => .error (Fault.of "Expression tree is too large (maximum depth 1000)")
  | fuel + 1, cx, lv, key, distinct, args, filter =>
    match lv with
    | [] => .error (Fault.of ("misuse of aggregate function " ++ key ++ "()"))
    | l :: rest => do
      let rows := l.group.getD [l.frames]
      let argRows ← rows.filterMapM fun fs => do
        let here := { l with frames := fs, group := none } :: rest
        let keep ← match filter with
          | some f => do
            let t ← eval fuel cx here f
            pure (t.truth == some true)
          | none => pure true
        if !keep then pure none
        else
          let vs ← args.mapM fun x => do
            let v ← eval fuel cx here x
            pure ({ value := v, json := x.isJson } : Arg)
          pure (some vs)
      let coll := (args.head?.map (collationOf lv)).getD .binary
      let argRows := if distinct then
          distinctRows [coll] (fun (r : List Arg) => r.map (·.value))
            (argRows.filter fun r => !((r.head?.map (·.value.isNull)).getD false))
        else argRows
      orFault (Function.aggregate key coll argRows)

/-- The result of a query. -/
def evalQuery : Nat → Context → List Level → Query → Except Fault Relation
  | 0, _, _, _ => .error (Fault.of "query is too deep")
  | fuel + 1, cx, lv, .query ctes _ first rest order limit offset => do
    let cx := cx.push ctes
    let lim ← match limit with
      | some e => do
        let n ← limitNumber (← eval fuel cx [] e)
        pure (if n < 0 then none else some n.toNat)
      | none => pure none
    let off ← match offset with
      | some e => do
        let n ← limitNumber (← eval fuel cx [] e)
        pure (if n < 0 then 0 else n.toNat)
      | none => pure 0
    if rest.isEmpty then
      let (fields, keys, rows) ← evalCore fuel cx lv first order
      let rows := if order.isEmpty then rows else sortRows keys rows
      pure ⟨fields, cutRows off lim (rows.map (·.1))⟩
    else
      let (fields, _, rows0) ← evalCore fuel cx lv first []
      let colls ← compoundCollations fuel cx lv (first :: rest.map (·.2)) fields.length
      let rows ← rest.foldlM (fun (acc : List (List Value)) (op, sel) => do
        let (fs, _, rs) ← evalCore fuel cx lv sel []
        if fs.length != fields.length then
          throw (Fault.of ("SELECTs to the left and right of " ++ setOpWord op ++
            " do not have the same number of result columns"))
        let rs := rs.map (·.1)
        pure (match op with
          | .unionAll => acc ++ rs
          | .union => sortedDistinct colls (acc ++ rs)
          | .intersect => sortedDistinct colls (acc.filter fun r => rs.any (sameRow colls r))
          | .except => sortedDistinct colls (acc.filter fun r => !rs.any (sameRow colls r)))) (rows0.map (·.1))
      let terms ← order.mapM fun (.term e desc nulls) => do
        let i ← compoundColumn fields (first :: rest.map (·.2)) e
        pure (i, ({ collation := colls.getD i .binary, descending := desc, nullsFirst := nulls } : SortKey))
      let rows := if terms.isEmpty then rows
        else (sortRows (terms.map (·.2)) (rows.map fun r => (r, terms.map fun (i, _) => r.getD i .null))).map (·.1)
      pure ⟨fields, cutRows off lim rows⟩

/-- The collation of each column of a compound query: the first that a select gives it. -/
def compoundCollations : Nat → Context → List Level → List Select → Nat →
    Except Fault (List Collation)
  | 0, _, _, _, _ => .error (Fault.of "query is too deep")
  | fuel + 1, cx, lv, sels, n => do
    let perSelect ← sels.mapM fun s => do
      let fs ← coreFields fuel cx lv s
      pure (fs.map (·.collation))
    pure ((List.range n).map fun i => ((perSelect.findSome? fun cs => cs.getD i none)).getD .binary)

/-- The rows of one `SELECT` or `VALUES`, each with its values for the `ORDER BY` terms, with
the columns of its result and how the terms sort. -/
def evalCore : Nat → Context → List Level → Select → List OrderTerm →
    Except Fault (List Field × List SortKey × List (List Value × List Value))
  | 0, _, _, _, _ => .error (Fault.of "query is too deep")
  | fuel + 1, cx, lv, s, order =>
    match s with
    | .values rows => do
      let fields ← coreFields fuel cx lv s
      let vals ← rows.mapM fun r => r.mapM (eval fuel cx ({} :: lv))
      let keys := order.map fun (.term e desc nulls) =>
        let coll := match e.columnNumber? with
          | some k => ((fields.getD (k.toNat - 1) default).collation).getD .binary
          | none => .binary
        ({ collation := coll, descending := desc, nullsFirst := nulls } : SortKey)
      pure (fields, keys, vals.map fun vs => (vs, order.map fun (.term e _ _) =>
        match e.columnNumber? with
        | some k => vs.getD (k.toNat - 1) .null
        | none => .null))
    | .select distinct cols src filter groupBy having windows => do
      let (frames, rows) ← match src with
        | some s => sourceRows fuel cx lv s
        | none => pure ([], [[]])
      let aliases := cols.filterMap fun
        | .expr e (some a) _ => some (a, e)
        | _ => none
      let level (fs : List Frame) : Level := { frames := fs, aliases }
      let fields ← resultFields fuel cx (level frames :: lv) frames cols
      let colls := fields.map fun f => f.collation.getD .binary
      let keys := order.map fun (.term e desc nulls) =>
        let coll := match resultIndex cols e with
          | some i => (colls.getD i .binary)
          | none => collationOf (level frames :: lv) e
        ({ collation := coll, descending := desc, nullsFirst := nulls } : SortKey)
      let rows ← match filter with
        | some w => rows.filterM fun fs => do
          let v ← eval fuel cx (level fs :: lv) w
          pure (v.truth == some true)
        | none => pure rows
      let aggregated := !groupBy.isEmpty || cols.any fun
        | .expr e _ _ => e.aggregates 1000
        | _ => false
      let exprOf (e : Expr) : Expr :=
        match e.columnNumber? with
        | some k =>
          match cols[k.toNat - 1]? with
          | some (.expr x _ _) => if k ≥ 1 then x else e
          | _ => e
        | none => e
      let contexts ← if aggregated then do
          let groups ← groupRows fuel cx lv (level frames) (groupBy.map exprOf) rows
          let bare := bareExtreme cols
          groups.filterMapM fun grp => do
            let rep ← match bare with
              | some (isMax, arg) => do
                let vals ← grp.mapM fun fs => eval fuel cx (level fs :: lv) arg
                let coll := collationOf (level frames :: lv) arg
                pure (match Function.extremeRow isMax coll vals with
                  | some i => grp.getD i (frames.map Frame.nulled)
                  | none => grp.getLastD (frames.map Frame.nulled))
              | none => pure (grp.getLastD (frames.map Frame.nulled))
            let l := { level rep with group := some grp }
            let keep ← match having with
              | some h => do
                let v ← eval fuel cx (l :: lv) h
                pure (v.truth == some true)
              | none => pure true
            pure (if keep then some l else none)
        else pure (rows.map level)
      let calls := windowCalls cols order
      let results ← if calls.isEmpty then
          contexts.mapM fun l => do
            let vals ← project fuel cx (l :: lv) cols
            let keys ← termValues fuel cx (l :: lv) cols order vals
            pure (vals, keys)
        else do
          let named ← orFault (WindowDef.ofClause windows)
          let passed ← calls.reverse.foldlM (fun acc call => windowPass fuel cx lv named call acc)
            (contexts.map fun l => (l, ([] : List Value)))
          passed.mapM fun (l, vs) => do
            let (filled, terms) := fillWindows vs cols order
            let vals ← project fuel cx (l :: lv) filled
            let keys ← (order.zip terms).mapM fun (.term e _ _, .term e' _ _) =>
              match resultIndex cols e with
              | some i => pure (vals.getD i .null)
              | none => eval fuel cx (l :: lv) e'
            pure (vals, keys)
      pure (fields, keys, if distinct then distinctRows colls (·.1) results else results)

/-- Runs one window call over the rows of a query, each a scope with the values of the calls
run before: sorts the rows by the window's partition and order, keeping the order of rows that
these do not tell apart, and adds to each row the call's value. -/
def windowPass : Nat → Context → List Level → List (String × WindowDef) → Expr →
    List (Level × List Value) → Except Fault (List (Level × List Value))
  | 0, _, _, _, _, _ => .error (Fault.of "query is too deep")
  | fuel + 1, cx, lv, named, call, rows =>
    match call with
    | .window n _ args _ filter win => do
      let key := nameKey n
      let d ← orFault (WindowDef.resolve named win)
      let sample := (rows.head?.map (·.1)).getD {}
      let sortKey (e : Expr) (desc : Bool) (nulls : Option Bool) : SortKey :=
        { collation := collationOf (sample :: lv) e, descending := desc, nullsFirst := nulls }
      let partKeys := d.partition.map fun e => sortKey e false none
      let orderKeys := d.order.map fun (.term e desc nulls) => sortKey e desc nulls
      let keyed ← rows.mapM fun (l, vs) => do
        let pk ← d.partition.mapM (eval fuel cx (l :: lv))
        let ok ← d.order.mapM fun (.term e _ _) => eval fuel cx (l :: lv) e
        pure (((l, vs), ok), pk ++ ok)
      let sorted := sortRows (partKeys ++ orderKeys) keyed
      let parts := sorted.splitBy fun a b => compareKeys partKeys a.2 b.2 == .eq
      let reach (b : FrameBound) (isStart : Bool) : Except Fault Reach := do
        let offset (e : Expr) : Except Fault Value := do
          let v := Affinity.numeric.apply (← eval fuel cx [] e)
          let fault := Fault.of ("frame " ++ (if isStart then "starting" else "ending") ++
            " offset must be a non-negative " ++ (if d.unit == .range then "number" else "integer"))
          match v with
          | .integer k => if k ≥ 0 then pure v else throw fault
          | .real x => if d.unit == .range && x ≥ 0 then pure v else throw fault
          | _ => throw fault
        match b with
        | .unbounded => pure .unbounded
        | .current => pure .here
        | .preceding e => return .back (← offset e)
        | .following e => return .ahead (← offset e)
      let (start, finish) ← if rows.isEmpty || ownFrame key then pure (Reach.unbounded, Reach.here)
        else pure (← reach d.start true, ← reach d.finish false)
      let coll := collationOf (sample :: lv) (args.headD (.lit .null))
      let out ← parts.mapM fun part => do
        let scopes := part.map (·.1.1)
        let orderVals := part.map (·.1.2)
        let p : Partition := { groups := peerGroups orderKeys orderVals,
                               keys := orderVals.map (·.headD .null),
                               key := orderKeys.headD default }
        let argVals ← scopes.mapM fun (l, _) => args.mapM fun x => do
          pure ({ value := ← eval fuel cx (l :: lv) x, json := x.isJson } : Arg)
        let kept ← scopes.mapM fun (l, _) =>
          match filter with
          | some f => do pure ((← eval fuel cx (l :: lv) f).truth == some true)
          | none => pure true
        let values ← (List.range scopes.length).mapM fun i =>
          orFault (windowValue key coll p d start finish argVals kept i)
        pure ((scopes.zip values).map fun ((l, vs), v) => (l, v :: vs))
      pure out.flatten
    | _ => pure rows

/-- The values of result columns in a scope. -/
def project : Nat → Context → List Level → List ResultColumn → Except Fault (List Value)
  | 0, _, _, _ => .error (Fault.of "query is too deep")
  | fuel + 1, cx, lv, cols =>
    let frames := (lv.headD default).frames
    cols.flatMapM fun
      | .all => pure (frames.flatMap fun f => f.starFields.map (·.2))
      | .allOf t =>
        match frames.find? fun f => (f.name.map (sameName · t)).getD false with
        | some f => pure (f.shownFields.map (·.2))
        | none => throw (Fault.of ("no such table: " ++ t))
      | .expr e _ _ => do pure [← eval fuel cx lv e]

/-- The values of `ORDER BY` terms for a row: a result column named by alias or number, or
the term evaluated in the row's scope. -/
def termValues : Nat → Context → List Level → List ResultColumn → List OrderTerm → List Value →
    Except Fault (List Value)
  | 0, _, _, _, _, _ => .error (Fault.of "query is too deep")
  | fuel + 1, cx, lv, cols, order, vals =>
    order.mapM fun (.term e _ _) =>
      match resultIndex cols e with
      | some i => pure (vals.getD i .null)
      | none => eval fuel cx lv e

/-- The groups of rows by the values of `GROUP BY` terms, in the order of those values; one
group of all rows without terms. -/
def groupRows : Nat → Context → List Level → Level → List Expr → List (List Frame) →
    Except Fault (List (List (List Frame)))
  | 0, _, _, _, _, _ => .error (Fault.of "query is too deep")
  | fuel + 1, cx, lv, base, terms, rows =>
    if terms.isEmpty then pure [rows]
    else do
      let keyed ← rows.mapM fun fs => do
        let k ← terms.mapM (eval fuel cx ({ base with frames := fs } :: lv))
        pure (fs, k)
      let colls := terms.map (collationOf (base :: lv))
      let sorted := keyed.mergeSort fun a b => compareRows colls a.2 b.2 != .gt
      let groups := sorted.foldl (fun (acc : List (List Value × List (List Frame))) (fs, k) =>
        match acc with
        | (k0, g) :: more => if sameRow colls k0 k then (k0, g ++ [fs]) :: more else (k, [fs]) :: acc
        | [] => [(k, [fs])]) []
      pure (groups.reverse.map (·.2))

/-- The frames and rows of a source. -/
def sourceRows : Nat → Context → List Level → Source → Except Fault (List Frame × List (List Frame))
  | 0, _, _, _ => .error (Fault.of "query is too deep")
  | fuel + 1, cx, lv, src =>
    match src with
    | .table name asName =>
      match cx.cte? name with
      | some b => do
        let rel ← bindingRows fuel cx lv b
        let f : Frame := { name := some (asName.getD b.name), fields := rel.fields }
        pure ([f], rel.rows.map fun r => [f.withValues r])
      | none =>
        match catalogueOf? name with
        | some temp =>
          let s := if temp then cx.db.temp else cx.db.main
          let f : Frame := { name := some (asName.getD name), fields := catalogueFields, hasRowid := true }
          pure ([f], s.catalogueRows.map fun r => [f.withRow r])
        | none =>
          match cx.db.named? name with
          | some (.table t) =>
            let f := Frame.ofTable t (asName.getD t.name)
            pure ([f], t.rows.map fun r => [f.withRow r])
          | some (.view v) => do
            let rel ← viewRows fuel cx v
            let f : Frame := { name := some (asName.getD v.name), fields := rel.fields }
            pure ([f], rel.rows.map fun r => [f.withValues r])
          | none => throw (Fault.of ("no such table: " ++ name))
    | .query q asName => do
      let rel ← evalQuery fuel cx lv q
      let f : Frame := { name := asName, fields := renamed rel.fields }
      pure ([f], rel.rows.map fun r => [f.withValues r])
    | .function name args _ => do
      let fs ← templates fuel cx lv src
      let rows ← functionRows fuel cx lv name args (fs.headD default)
      pure (fs, rows)
    | .join l kind natural r on cols => do
      let (lf, lrows) ← sourceRows fuel cx lv l
      let (rf, rrows) ← match r with
        | .function .. => do pure (← templates fuel cx lv r, [])
        | _ => sourceRows fuel cx lv r
      let names ← joinNames lf rf natural cols
      let rightRows (a : List Frame) : Except Fault (List (List Frame)) :=
        match r with
        | .function name args _ => do
          let rows ← functionRows fuel cx ({ frames := a } :: lv) name args (rf.headD default)
          pure (rows.map (mergeFrames names))
        | _ => pure (rrows.map (mergeFrames names))
      let rf := mergeFrames names rf
      let joined (a b : List Frame) : Except Fault Bool := do
        let fs := a ++ b
        let usingOk := names.all fun n =>
          match columnValue? a n, columnValue? b n with
          | some (fa, x), some (fb, y) =>
            let coll := (fa.collation <|> fb.collation).getD .binary
            (compareOp .eq (comparisonAffinity fa.affinity fb.affinity) coll x y).truth == some true
          | _, _ => false
        if !usingOk then pure false
        else
          match on with
          | some c => do
            let v ← eval fuel cx ({ frames := fs } :: lv) c
            pure (v.truth == some true)
          | none => pure true
      let pairs ← lrows.mapM fun a => do
        let ms ← (← rightRows a).filterM fun b => joined a b
        pure (a, ms)
      let leftPart := pairs.flatMap fun (a, ms) =>
        if ms.isEmpty && (kind == .left || kind == .full) then [a ++ rf.map Frame.nulled]
        else ms.map (a ++ ·)
      let rrows := rrows.map (mergeFrames names)
      let rightExtra ← if kind == .right || kind == .full then
          rrows.filterM fun b => do
            let any ← lrows.anyM fun a => joined a b
            pure !any
        else pure []
      pure (lf ++ rf, leftPart ++ rightExtra.map (lf.map Frame.nulled ++ ·))

/-- The rows of a table function over its arguments, evaluated in a scope. -/
def functionRows : Nat → Context → List Level → String → List Expr → Frame →
    Except Fault (List (List Frame))
  | 0, _, _, _, _, _ => .error (Fault.of "query is too deep")
  | fuel + 1, cx, lv, name, args, f => do
    let vs ← args.mapM (eval fuel cx lv)
    let doc := vs.getD 0 .null
    let entries ← orFault (Json.walk (sameName name "json_tree") doc vs[1]?)
    let root := match vs[1]? with
      | some v => v.asText
      | none => "$"
    pure (entries.zipIdx.map fun (e, i) =>
      [{ f with values := e.values (.text doc.asText) root, rowid := .integer i }])

/-- The rows of a view. -/
def viewRows : Nat → Context → View → Except Fault Relation
  | 0, _, _ => .error (Fault.of "query is too deep")
  | fuel + 1, cx, v => do
    let rel ← evalQuery fuel { cx with ctes := [] } [] v.query
    let fs ← relabel v.name v.columns (renamed rel.fields)
    pure ⟨fs, rel.rows⟩

/-- The rows of a common table expression: its query's, or, when a later part of it reads it,
those of its recursion. -/
def bindingRows : Nat → Context → List Level → Binding → Except Fault Relation
  | 0, _, _, _ => .error (Fault.of "query is too deep")
  | fuel + 1, cx, lv, b =>
    match b.rows with
    | some rel => pure rel
    | none =>
      let inner := cx.scopeOf b
      match b.query with
      | .query ctes _ first rest order limit offset =>
        let recursivePart := rest.dropWhile fun (_, s) => !s.reads b.name
        if recursivePart.isEmpty then do
          if first.reads b.name then throw (Fault.of ("circular reference: " ++ b.name))
          let rel ← evalQuery fuel inner lv b.query
          let fs ← relabel b.name b.columns (renamed rel.fields)
          pure ⟨fs, rel.rows⟩
        else do
          let setup := rest.take (rest.length - recursivePart.length)
          let inner := inner.push ctes
          let seed ← evalQuery fuel inner lv (.query [] false first setup [] none none)
          let fs ← relabel b.name b.columns (renamed seed.fields)
          let lim ← match limit with
            | some e => do
              let n ← limitNumber (← eval fuel inner [] e)
              pure (if n < 0 then none else some n.toNat)
            | none => pure none
          let off ← match offset with
            | some e => do
              let n ← limitNumber (← eval fuel inner [] e)
              pure (if n < 0 then 0 else n.toNat)
            | none => pure 0
          let distinct := recursivePart.any fun (op, _) => op == .union
          let colls := fs.map fun f => f.collation.getD .binary
          let seedRows := if distinct then distinctRows colls id seed.rows else seed.rows
          let orderCols := order.map fun (.term e _ _) =>
            match e.columnNumber? with
            | some k => k.toNat - 1
            | none =>
              match e with
              | .column none n _ => (fs.findIdx? (sameName ·.name n)).getD 0
              | _ => 0
          let sortKeys := order.map fun (.term _ desc nulls) =>
            ({ collation := .binary, descending := desc, nullsFirst := nulls } : SortKey)
          let pick (queue : List (List Value)) : Option (List Value × List (List Value)) :=
            if order.isEmpty then
              match queue with
              | r :: more => some (r, more)
              | [] => none
            else
              match (queue.zipIdx.mergeSort fun a c =>
                  compareKeys sortKeys (orderCols.map (a.1.getD · .null))
                    (orderCols.map (c.1.getD · .null)) != .gt).head? with
              | some (r, i) => some (r, queue.eraseIdx i)
              | none => none
          let step (state : List (List Value) × List (List Value) × List (List Value) × Nat × Bool)
              (_ : Nat) : Except Fault (List (List Value) × List (List Value) × List (List Value) × Nat × Bool) := do
            let (queue, out, seen, skipped, done) := state
            if done then pure state
            else
              match pick queue with
              | none => pure (queue, out, seen, skipped, true)
              | some (r, queue) =>
                let (out, skipped) := if skipped < off then (out, skipped + 1) else (out ++ [r], skipped)
                if (lim.map fun n => decide (out.length ≥ n)).getD false then pure (queue, out, seen, skipped, true)
                else do
                  let here := { inner with ctes := { b with rows := some ⟨fs, [r]⟩ } :: inner.ctes }
                  let fresh ← recursivePart.flatMapM fun (_, sel) => do
                    let (_, _, rs) ← evalCore fuel here lv sel []
                    pure (rs.map (·.1))
                  let (fresh, seen) := if distinct then
                      fresh.foldl (fun (acc : List (List Value) × List (List Value)) x =>
                        if acc.2.any (sameRow colls x) then acc else (acc.1 ++ [x], acc.2 ++ [x]))
                        ([], seen)
                    else (fresh, seen)
                  pure (queue ++ fresh, out, seen, skipped, false)
          let (_, out, _, _, _) ← (List.range recursionLimit).foldlM step
            (seedRows, [], seedRows, 0, lim == some 0)
          pure ⟨fs, out⟩

end

end Sql

end TelemetryBridge
