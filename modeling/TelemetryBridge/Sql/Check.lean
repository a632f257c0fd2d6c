import TelemetryBridge.Sql.Eval

/-!
# Checking statements before they run

A statement is checked against the schema before any row is read, so that its errors do not
depend on the data. The checks and their order follow the database's preparation:

* **Expansion.** Every `FROM` clause of a query, through its subqueries and the common table
  expressions it reads (the rightmost select of a compound first), must name existing tables;
  then joins are checked (`NATURAL` takes neither `ON` nor `USING`; `USING` columns must be on
  both sides), then `*` and `t.*` must have something to stand for.
* **Names.** In each select, rightmost first: `LIMIT` and `OFFSET`, the result columns, `HAVING`
  (only in an aggregate query), `WHERE` with the `ON` conditions, `ORDER BY` and `GROUP BY` (by
  alias, column number or expression, without reach into outer queries); then the column counts
  of the selects of a compound must agree.
* **Expressions** are checked node before operands: column names must resolve; a function must
  exist with that number of arguments (an aggregate only where one may stand, and not within
  another); a scalar subquery must give one column; a row value stands only in a comparison;
  collations must exist; `RAISE` belongs in triggers. Checks, index expressions and generated
  columns refuse subqueries and parameters (and the latter two functions that depend on more
  than their arguments).

Main definitions: `Sql.Place`, `Sql.checkExpr`, `Sql.checkQuery`.
-/

namespace TelemetryBridge

namespace Sql

/-- Where an expression stands, which decides what it may hold. -/
structure Place where
  /-- Aggregate functions may stand here. -/
  aggregates : Bool := false
  /-- The expression is in the `WHERE` clause of an aggregate query. -/
  inAggregateWhere : Bool := false
  /-- The kind of definition it belongs to, which refuses subqueries and parameters: `CHECK
  constraints`, `index expressions`, `partial index WHERE clauses` or `generated columns`. -/
  within : Option String := none
  /-- A trigger's statements are being checked, where `RAISE` may stand. -/
  trigger : Bool := false
  /-- Window functions may stand here, over the named windows given. -/
  windows : Option (List (String × WindowDef)) := none
  deriving Inhabited

/-- A fault's message. -/
def faultText {α : Type} : Except Fault α → Except String α
  | .ok a => .ok a
  | .error f => .error f.message

/-- An ordinal number as messages write it: `1st`, `2nd`, `3rd`, `4th`, …, `11th`, `21st`. -/
def ordinal (n : Nat) : String := toString n ++ Value.bytesText (Format.ordinalSuffix n)

/-- Whether a binary operator compares. -/
def BinOp.compares : BinOp → Bool
  | .eq | .ne | .lt | .le | .gt | .ge | .is | .isNot => true
  | _ => false

/-- The conditions of the `ON` clauses of a source, left to right. -/
def Source.conditions : Source → List Expr
  | .join l _ _ r on _ => l.conditions ++ r.conditions ++ on.toList
  | _ => []

/-- The subqueries of a source's `FROM` items, with their aliases. -/
def Source.subqueries : Source → List Query
  | .query q _ => [q]
  | .join l _ _ r _ _ => l.subqueries ++ r.subqueries
  | .table _ _ | .function .. => []

/-- The table functions of a source with their arguments. -/
def Source.functions : Source → List (String × List Expr)
  | .function n args _ => [(n, args)]
  | .join l _ _ r _ _ => l.functions ++ r.functions
  | _ => []

mutual

/-- Checks an expression in a scope. -/
def checkExpr : Nat → Context → List Level → Place → Expr → Except String Unit
  | 0, _, _, _, _ => .error "Expression tree is too large (maximum depth 1000)"
  | fuel + 1, cx, lv, pl, e =>
    match e with
    | .lit _ | .wide _ => pure ()
    | .param =>
      match pl.within with
      | some w => throw ("parameters prohibited in " ++ w)
      | none => pure ()
    | .column t n dq =>
      match lookup lv t n dq with
      | .error m => throw m
      | .ok (.resultAlias _ a) =>
        if !pl.aggregates && a.aggregates 1000 then throw ("misuse of aliased aggregate " ++ n)
        else if pl.windows.isNone && !(windowCalls [.expr a none ""] []).isEmpty then
          throw ("misuse of aliased window function " ++ n)
        else pure ()
      | .ok _ => pure ()
    | .unary _ a => checkExpr fuel cx lv pl a
    | .binary op a b => do
      if op.compares && vectorSize a != vectorSize b then throw "row value misused"
      checkOperand fuel cx lv pl a
      checkOperand fuel cx lv pl b
    | .isNull a _ => checkExpr fuel cx lv pl a
    | .between a l h _ => do
      if vectorSize a != vectorSize l || vectorSize a != vectorSize h then throw "row value misused"
      checkOperand fuel cx lv pl a
      checkOperand fuel cx lv pl l
      checkOperand fuel cx lv pl h
    | .inList a items _ => do
      checkOperand fuel cx lv pl a
      items.forM (checkExpr fuel cx lv pl)
      if vectorSize a != 1 then throw "row value misused"
    | .inQuery a q _ => do
      match pl.within with
      | some w => throw ("subqueries prohibited in " ++ w)
      | none => pure ()
      checkOperand fuel cx lv pl a
      let fs ← checkQuery fuel cx lv pl q
      if fs.length != vectorSize a then
        throw ("sub-select returns " ++ toString fs.length ++ " columns - expected " ++
          toString (vectorSize a))
    | .pattern _ a p esc _ => do
      checkExpr fuel cx lv pl p
      checkExpr fuel cx lv pl a
      match esc with
      | some z => checkExpr fuel cx lv pl z
      | none => pure ()
    | .collate a n => do
      if (Collation.ofName? n).isNone then throw ("no such collation sequence: " ++ n)
      checkExpr fuel cx lv pl a
    | .cast a _ => checkExpr fuel cx lv pl a
    | .call n written distinct args _ filter => do
      let key := nameKey n
      match Function.classify key args.length with
      | .ok .window => throw ("misuse of window function " ++ written ++ "()")
      | .ok .aggregate =>
        if !pl.aggregates then
          if pl.inAggregateWhere then throw ("misuse of aggregate: " ++ written ++ "()")
          else throw ("misuse of aggregate function " ++ written ++ "()")
      | .error .noSuchFunction => throw ("no such function: " ++ written)
      | .error .wrongArguments =>
        throw ("wrong number of arguments to function " ++ written ++ "()")
      | .ok .scalar =>
        if filter.isSome then
          throw ("FILTER may not be used with non-aggregate " ++ written ++ "()")
      let isAgg := match Function.classify key args.length with
        | .ok .aggregate => true
        | _ => false
      if key == "LIKELIHOOD" then
        match args.getD 1 (.lit .null) with
        | .lit (.real x) => if x < 0 || x > 1 then
            throw ("second argument to " ++ written ++ "() must be a constant between 0.0 and 1.0")
        | _ => throw ("second argument to " ++ written ++ "() must be a constant between 0.0 and 1.0")
      if Function.nondeterministic key then
        match pl.within with
        | some w =>
          if w != "CHECK constraints" then throw ("non-deterministic functions prohibited in " ++ w)
        | none => pure ()
      let inner := if isAgg then { pl with aggregates := false, inAggregateWhere := false } else pl
      args.forM (checkExpr fuel cx lv inner)
      match filter with
      | some f => checkExpr fuel cx lv inner f
      | none => pure ()
      if isAgg && distinct && args.length != 1 then
        throw "DISTINCT aggregates must have exactly one argument"
    | .cases b arms o => do
      match b with
      | some x => checkExpr fuel cx lv pl x
      | none => pure ()
      arms.forM fun (w, t) => do
        checkExpr fuel cx lv pl w
        checkExpr fuel cx lv pl t
      match o with
      | some x => checkExpr fuel cx lv pl x
      | none => pure ()
    | .exists q => do
      match pl.within with
      | some w => throw ("subqueries prohibited in " ++ w)
      | none => pure ()
      let _ ← checkQuery fuel cx lv pl q
    | .subquery q => do
      match pl.within with
      | some w => throw ("subqueries prohibited in " ++ w)
      | none => pure ()
      let fs ← checkQuery fuel cx lv pl q
      if fs.length != 1 then
        throw ("sub-select returns " ++ toString fs.length ++ " columns - expected 1")
    | .raise _ _ =>
      if !pl.trigger then throw "RAISE() may only be used within a trigger-program" else pure ()
    | .vector items =>
      match items with
      | [x] => checkExpr fuel cx lv pl x
      | _ => throw "row value misused"
    | .window n written args _ filter win => do
      let key := nameKey n
      match Function.classify key args.length with
      | .ok .scalar => throw (written ++ "() may not be used as a window function")
      | .ok _ => if pl.windows.isNone then throw ("misuse of window function " ++ written ++ "()")
      | .error .noSuchFunction => throw ("no such function: " ++ written)
      | .error .wrongArguments =>
        if (Function.aggregateArity key).isNone && (Function.windowArity key).isNone then
          throw (written ++ "() may not be used as a window function")
        else throw ("wrong number of arguments to function " ++ written ++ "()")
      let inner := { pl with windows := none }
      args.forM (checkExpr fuel cx lv inner)
      let d ← WindowDef.resolve (pl.windows.getD []) win
      if d.rangeOffsets && d.order.length != 1 then
        throw "RANGE with offset PRECEDING/FOLLOWING requires one ORDER BY expression"
      if windowOnly key && filter.isSome then
        throw "FILTER clause may only be used with aggregate window functions"
      d.partition.forM (checkExpr fuel cx lv inner)
      d.order.forM fun (.term e _ _) => checkExpr fuel cx lv inner e
      match filter with
      | some f => checkExpr fuel cx lv inner f
      | none => pure ()

/-- Checks an operand of a comparison, which may be a row value. -/
def checkOperand : Nat → Context → List Level → Place → Expr → Except String Unit
  | 0, _, _, _, _ => .error "Expression tree is too large (maximum depth 1000)"
  | fuel + 1, cx, lv, pl, e =>
    match e with
    | .vector items => items.forM (checkExpr fuel cx lv pl)
    | .subquery q => do
      match pl.within with
      | some w => throw ("subqueries prohibited in " ++ w)
      | none => pure ()
      let _ ← checkQuery fuel cx lv pl q
    | e => checkExpr fuel cx lv pl e

/-- Checks a query in a scope: its tables first, then its names. Gives its result columns. -/
def checkQuery : Nat → Context → List Level → Place → Query → Except String (List Field)
  | 0, _, _, _, _ => .error "query is too deep"
  | fuel + 1, cx, lv, pl, q => do
    expandQuery fuel cx [] q
    resolveQuery fuel cx lv pl q

/-- Checks that the tables of a query's `FROM` clauses exist, through its subqueries and the
common table expressions it reads, and that its joins and stars stand for something. -/
def expandQuery : Nat → Context → List String → Query → Except String Unit
  | 0, _, _, _ => .error "query is too deep"
  | fuel + 1, cx, busy, .query ctes _ first rest _ _ _ =>
    let cx := cx.push ctes
    (first :: rest.map (·.2)).reverse.forM (expandSelect fuel cx busy)

/-- Checks the tables, joins and stars of one select. -/
def expandSelect : Nat → Context → List String → Select → Except String Unit
  | 0, _, _, _ => .error "query is too deep"
  | fuel + 1, cx, busy, s =>
    match s with
    | .values _ => pure ()
    | .select _ cols src _ _ _ windows => do
      let _ ← WindowDef.ofClause windows
      match src with
      | some s => expandSource fuel cx busy s
      | none => pure ()
      let frames ← faultText (match src with
        | some s => templates fuel cx [] s
        | none => pure [])
      let _ ← faultText (resultFields fuel cx [{ frames }] frames cols)

/-- Checks that the tables of a source exist. -/
def expandSource : Nat → Context → List String → Source → Except String Unit
  | 0, _, _, _ => .error "query is too deep"
  | fuel + 1, cx, busy, src =>
    match src with
    | .table name _ =>
      match cx.cte? name with
      | some b =>
        if busy.any (sameName · b.name) then pure ()
        else expandQuery fuel (cx.scopeOf b) (b.name :: busy) b.query
      | none =>
        if (catalogueOf? name).isSome || (cx.db.named? name).isSome then pure ()
        else throw ("no such table: " ++ name)
    | .function name _ _ =>
      if (cx.cte? name).isSome || (catalogueOf? name).isSome || (cx.db.named? name).isSome then
        throw ("'" ++ name ++ "' is not a function")
      else if isTableFunction name then pure ()
      else throw ("no such table: " ++ name)
    | .query q _ => expandQuery fuel cx busy q
    | .join l _ _ r _ _ => do
      expandSource fuel cx busy l
      expandSource fuel cx busy r

/-- Checks the names of a query whose tables were checked. -/
def resolveQuery : Nat → Context → List Level → Place → Query → Except String (List Field)
  | 0, _, _, _, _ => .error "query is too deep"
  | fuel + 1, cx, lv, pl, .query ctes _ first rest order limit offset => do
    let cx := cx.push ctes
    let plain : Place := { trigger := pl.trigger, within := pl.within }
    match limit with
    | some e => checkExpr fuel cx [] plain e
    | none => pure ()
    match offset with
    | some e => checkExpr fuel cx [] plain e
    | none => pure ()
    let sels := first :: rest.map (·.2)
    let ops := rest.map (·.1)
    let n := sels.length
    let counts ← (List.range n).reverse.foldlM (fun (acc : List (List Field)) i => do
      let sel := sels.getD i default
      let fs ← resolveSelect fuel cx lv pl sel (if n == 1 then order else [])
      match acc with
      | next :: _ =>
        if fs.length != next.length then
          match sel, sels.getD (i + 1) default with
          | .values _, .values _ => throw "all VALUES must have the same number of terms"
          | _, _ =>
            throw ("SELECTs to the left and right of " ++ setOpWord (ops.getD i .union) ++
              " do not have the same number of result columns")
        else pure (fs :: acc)
      | [] => pure [fs]) []
    let fields := counts.headD []
    if n > 1 then
      (order.zipIdx).forM fun (.term e _ _, i) =>
        match e.columnNumber? with
        | some k =>
          if k < 1 || k > fields.length then
            throw (ordinal (i + 1) ++ " ORDER BY term out of range - should be between 1 and " ++
              toString fields.length)
          else pure ()
        | none =>
          let named := match e with
            | .column none c _ => counts.any (·.any (sameName ·.name c))
            | _ => false
          if named then pure ()
          else throw (ordinal (i + 1) ++ " ORDER BY term does not match any column in the result set")
    pure fields

/-- Checks the names of one select; gives its result columns. -/
def resolveSelect : Nat → Context → List Level → Place → Select → List OrderTerm →
    Except String (List Field)
  | 0, _, _, _, _, _ => .error "query is too deep"
  | fuel + 1, cx, lv, pl, s, order =>
    match s with
    | .values rows => do
      let plain : Place := { trigger := pl.trigger, within := pl.within }
      rows.forM fun r => r.forM (checkExpr fuel cx ({} :: lv) plain)
      faultText (coreFields fuel cx lv s)
    | .select _ cols src filter groupBy having windows => do
      let frames ← faultText (match src with
        | some s => templates fuel cx lv s
        | none => pure [])
      match src with
      | some s => s.subqueries.forM fun q => do let _ ← resolveQuery fuel cx lv pl q
      | none => pure ()
      let here := { frames } :: lv
      let defs ← WindowDef.ofClause windows
      let resultPlace := { pl with aggregates := true, inAggregateWhere := false, windows := some defs }
      let havingPlace := { resultPlace with windows := none }
      cols.forM fun
        | .expr e _ _ => checkExpr fuel cx here resultPlace e
        | _ => pure ()
      let fields ← faultText (resultFields fuel cx here frames cols)
      let aggregated := !groupBy.isEmpty || cols.any fun
        | .expr e _ _ => e.aggregates 1000
        | _ => false
      let aliases := cols.filterMap fun
        | .expr e (some a) _ => some (a, e)
        | _ => none
      let named : Level := { frames, aliases }
      match having with
      | some h =>
        if !aggregated then throw "HAVING clause on a non-aggregate query"
        checkExpr fuel cx (named :: lv) havingPlace h
      | none => pure ()
      let wherePlace := { pl with aggregates := false, inAggregateWhere := aggregated, windows := none }
      match filter with
      | some w => checkExpr fuel cx (named :: lv) wherePlace w
      | none => pure ()
      match src with
      | some s => s.conditions.forM (checkExpr fuel cx (named :: lv) wherePlace)
      | none => pure ()
      match src with
      | some s =>
        s.functions.forM fun (_, args) => args.forM (checkExpr fuel cx (named :: lv) havingPlace)
      | none => pure ()
      let count := fields.length
      (order.zipIdx).forM fun (.term e _ _, i) =>
        match resultIndex cols e with
        | some _ =>
          match e.columnNumber? with
          | some k =>
            if k < 1 || k > count then
              throw (ordinal (i + 1) ++ " ORDER BY term out of range - should be between 1 and " ++
                toString count)
            else pure ()
          | none => pure ()
        | none =>
          match e.columnNumber? with
          | some _ =>
            throw (ordinal (i + 1) ++ " ORDER BY term out of range - should be between 1 and " ++
              toString count)
          | none => checkExpr fuel cx [named] resultPlace e
      (groupBy.zipIdx).forM fun (e, i) => do
        match e.columnNumber? with
        | some k =>
          if k < 1 || k > count then
            throw (ordinal (i + 1) ++ " GROUP BY term out of range - should be between 1 and " ++
              toString count)
        | none => checkExpr fuel cx [named] havingPlace e
        if e.aggregates 1000 then throw "aggregate functions are not allowed in the GROUP BY clause"
      match src with
      | some s =>
        s.functions.forM fun (n, args) =>
          if args.length > 2 then
            throw ("too many arguments on " ++ n.toLower ++ "() - max 2")
          else pure ()
      | none => pure ()
      pure fields

end

/-- Checks an expression that stands where no table is in scope (a value of `VALUES`, a
default, a limit). -/
def checkPlain (cx : Context) (e : Expr) : Except String Unit :=
  checkExpr evalFuel cx [] {} e

end Sql

end TelemetryBridge
