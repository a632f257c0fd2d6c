import TelemetryBridge.Sql.Constraint

/-!
# Statements that change rows

`INSERT`, `UPDATE` and `DELETE` change a table row by row, and each change of a row may fire
**triggers**. A statement is checked before it runs (see `Sql.Prepare`), so running it meets
only the failures that depend on the data.

* **Insertion.** The rows to insert are computed first (a query over the table itself does not
  see its own insertions). Each row takes the values given for the columns named (all columns
  but generated ones when none are named) and the defaults of the others; values are stored by
  the columns' affinities. The row id is the one given (for `rowid` or the row-id column; a
  value that is no whole number is a datatype mismatch), else a new one (see `Sql.Store`). Then
  `BEFORE` triggers fire, the rules of `Sql.Constraint` are checked, the row is stored, and
  `AFTER` triggers fire.
* **Upserts.** An `ON CONFLICT` clause takes over a uniqueness breach of the key it names (any
  key without a target): `DO NOTHING` skips the row, `DO UPDATE` updates the row in the way
  instead, where `excluded.c` names the value that was to be inserted. The keys that upserts
  name are checked first.
* **Update.** The rows meeting the condition are chosen first (with `FROM`, each with the first
  matching row of the other sources); each is then rewritten from its current values: the
  assignments are computed, `BEFORE` triggers fire (a row they delete is skipped, columns not
  assigned are read again), the rules are checked for the changed columns, and `AFTER`
  triggers fire.
* **Deletion** removes the chosen rows, with `BEFORE` and `AFTER` triggers around each.
* **Conflict rules.** A statement's `OR` clause overrides the rules of the table's
  constraints. `REPLACE` removes the rows in the way (without triggers), `IGNORE` skips the
  row, and `ABORT`, `FAIL` and `ROLLBACK` fail the statement with that effect.
* **Triggers** fire for each row, newest first, when their event matches (an `UPDATE OF`
  trigger only when one of its columns is assigned) and their `WHEN` holds, with the rows
  `old` and `new` in scope. A trigger does not fire while it runs. Its statements take the
  conflict rule of the statement that fired it, if that has one. `RAISE(IGNORE)` abandons the
  change of the row at hand; the other `RAISE` forms fail the statement.
* **Views** change only through `INSTEAD OF` triggers, which fire in place of the change.

Main definitions: `Sql.Conn`, `Sql.Run`, `Sql.runChange`.
-/

namespace TelemetryBridge

namespace Sql

/-- The state statements change: the database, the connection's counters, and the number of
rows the running statement changed directly. -/
structure Conn where
  db : Database := {}
  counters : Counters := {}
  changed : Int := 0
  deriving Inhabited

/-- A computation that changes the connection's state and may fail; a failure keeps the state
reached so far, which the statement's conflict rule then keeps or undoes. -/
abbrev Run := EStateM Fault Conn

/-- A result or failure of evaluation as a step of a statement. -/
def Run.lift {α : Type} (x : Except Fault α) : Run α :=
  match x with
  | .ok a => pure a
  | .error f => throw f

/-- Leaves the change of a row when a trigger raised `IGNORE`. -/
def Run.skipIgnored (x : Run Unit) : Run Unit :=
  tryCatch x fun f => if f.action == .ignore then pure () else throw f

/-- What evaluation reads of the state. -/
def Conn.context (c : Conn) : Context := { db := c.db, counters := c.counters }

/-- Removes a row of a table, as `REPLACE` does: without triggers and without counting it. -/
def removeRow (table : String) (rowid : Int) : Run Unit :=
  modify fun c =>
    match c.db.table? table with
    | some t => { c with db := c.db.putTable (t.erase rowid) }
    | none => c

/-- Stores a table's new version; a direct change of the running statement is counted. -/
def storeRow (t : Table) (direct : Bool) : Run Unit :=
  modify fun c => { c with db := c.db.putTable t, changed := if direct then c.changed + 1 else c.changed }

/-- Whether a trigger's event is a change's. -/
def Event.fires (trig change : Event) : Bool :=
  match trig, change with
  | .insert, .insert | .delete, .delete => true
  | .update cols, .update sets => cols.isEmpty || cols.any fun c => sets.any (sameName c)
  | _, _ => false

/-- The frame of `old` or `new` in a trigger: qualified names only. -/
def triggerFrame (name : String) (fields : List Field) (hasRowid : Bool) (r : Row) : Frame :=
  { name := some name, fields, hasRowid, qualifiedOnly := true, values := r.values,
    rowid := .integer r.rowid }

/-- The scope of a trigger: `old` and `new` where the change has them. -/
def triggerLevel (fields : List Field) (hasRowid : Bool) (old new : Option Row) : Level :=
  { frames := (old.map (triggerFrame "old" fields hasRowid)).toList ++
      (new.map (triggerFrame "new" fields hasRowid)).toList }

/-- The values of assignments, one name each: `(a, b) = (x, y)` gives `x` to `a` and `y` to
`b`, and a subquery its first row's columns in order. -/
def assignValues (cx : Context) (lv : List Level) (sets : List (List String × Expr)) :
    Except Fault (List (String × Value)) := do
  let groups ← sets.mapM fun (ns, e) =>
    match ns, e with
    | [n], e => do pure [(n, ← eval evalFuel cx lv e)]
    | ns, .vector items => do
      let vs ← items.mapM (eval evalFuel cx lv)
      pure (ns.zip vs)
    | ns, .subquery q => do
      let rel ← evalQuery evalFuel cx lv q
      let row := rel.rows.headD []
      pure (ns.zipIdx.map fun (n, i) => (n, row.getD i .null))
    | ns, e => do
      let v ← eval evalFuel cx lv e
      pure (ns.map fun n => (n, v))
  pure groups.flatten

/-- Orders and cuts the rows an `UPDATE` or `DELETE` chose, by its `ORDER BY`, `LIMIT` and
`OFFSET`. -/
def chooseRows {α : Type} (cx : Context) (outer : List Level) (framesOf : α → List Frame)
    (rows : List α) (order : List OrderTerm) (limit offset : Option Expr) :
    Except Fault (List α) := do
  let sorted ← if order.isEmpty then pure rows else do
    let keyed ← rows.mapM fun a => do
      let lv := { frames := framesOf a } :: outer
      let ks ← order.mapM fun (.term e _ _) => eval evalFuel cx lv e
      pure (a, ks)
    let sample : List Level := { frames := (rows.head?.map framesOf).getD [] } :: outer
    let keys := order.map fun (.term e desc nulls) =>
      ({ collation := collationOf sample e, descending := desc, nullsFirst := nulls } : SortKey)
    pure ((sortRows keys keyed).map (·.1))
  let lim ← match limit with
    | some e => do
      let n ← limitNumber (← eval evalFuel cx [] e)
      pure (if n < 0 then none else some n.toNat)
    | none => pure none
  let off ← match offset with
    | some e => do
      let n ← limitNumber (← eval evalFuel cx [] e)
      pure (if n < 0 then 0 else n.toNat)
    | none => pure 0
  pure (if limit.isNone then sorted else cutRows off lim sorted)

/-- Evaluates the `RETURNING` columns of a changed row. -/
def returnRow (cx : Context) (outer : List Level) (frame : Frame) (cols : List ResultColumn) :
    Except Fault Unit :=
  cols.forM fun
    | .expr e _ _ => do let _ ← eval evalFuel cx ({ frames := [frame] } :: outer) e
    | _ => pure ()

/-- How a uniqueness breach is resolved: by a conflict rule, or by an upsert. -/
inductive Resolution where
  | rule (c : Conflict)
  | upsert (u : Upsert)
  deriving Inhabited

/-- The failure when triggers nest too deeply. -/
def tooDeep : Fault := Fault.of "too many levels of trigger recursion"

mutual

/-- Runs a statement that changes rows, or a query, at the top or in a trigger's body: `outer`
is the trigger's scope, `active` the triggers running, `inherited` the conflict rule of the
statement that fired them. -/
def runChange : Nat → List Level → List String → Option Conflict → Statement → Run Unit
  | 0, _, _, _, _ => throw tooDeep
  | fuel + 1, outer, active, inherited, s =>
    match s with
    | .query q => do
      let _ ← Run.lift (evalQuery evalFuel (← get).context outer q)
    | .insert ctes conflict table asName columns rows upserts returning =>
      insertRows fuel outer active (inherited <|> conflict) ctes table asName columns rows upserts
        returning
    | .update ctes conflict table asName sets source filter order limit offset returning =>
      updateRows fuel outer active (inherited <|> conflict) ctes table asName sets source filter
        order limit offset returning
    | .delete ctes table asName filter order limit offset returning =>
      deleteRows fuel outer active inherited ctes table asName filter order limit offset returning
    | _ => pure ()

/-- Runs an `INSERT`: computes its rows, then inserts them one by one. -/
def insertRows : Nat → List Level → List String → Option Conflict → List Cte → String →
    Option String → Option (List String) → Rows → List Upsert → List ResultColumn → Run Unit
  | 0, _, _, _, _, _, _, _, _, _, _ => throw tooDeep
  | fuel + 1, outer, active, conflict, ctes, table, asName, columns, rows, upserts, returning => do
    let cx := (← get).context.push ctes
    let source ← match rows with
      | .defaults => pure [[]]
      | .query q => do pure (← Run.lift (evalQuery evalFuel cx outer q)).rows
    match (← get).db.named? table with
    | some (.table t) =>
      let slots : List Slot := match columns with
        | some ns => ns.map fun n => (t.slot n).getD .rowid
        | none =>
          ((List.range t.columns.length).filter fun i => (t.column i).generated.isNone).map .column
      source.forM fun vals =>
        insertRow fuel outer active conflict t.name (asName.getD t.name) upserts returning
          (slots.zip vals)
    | some (.view v) => do
      let fields ← Run.lift (viewFields evalFuel cx v)
      let positions : List Nat := match columns with
        | some ns => ns.map fun n => (fields.findIdx? fun f => sameName f.name n).getD 0
        | none => List.range fields.length
      source.forM fun vals => do
        let row : List Value := (List.range fields.length).map fun i =>
          match (positions.zip vals).find? (·.1 == i) with
          | some (_, v) => v
          | none => .null
        Run.skipIgnored
          (fire fuel active conflict v.name fields false .insteadOf .insert none (some ⟨0, row⟩))
    | none => pure ()

/-- Inserts one row given as values for slots. -/
def insertRow : Nat → List Level → List String → Option Conflict → String → String →
    List Upsert → List ResultColumn → List (Slot × Value) → Run Unit
  | 0, _, _, _, _, _, _, _, _ => throw tooDeep
  | fuel + 1, outer, active, conflict, table, shown, upserts, returning, given =>
    Run.skipIgnored do
    let some t := (← get).db.table? table | pure ()
    let cx := (← get).context
    let direct := active.isEmpty
    let hasRowid := !t.withoutRowid
    let givenAt (s : Slot) : Option Value := (given.find? (·.1 == s)).map (·.2)
    let vals ← Run.lift ((List.range t.columns.length).mapM fun i =>
      match givenAt (.column i) with
      | some v => pure v
      | none =>
        if (t.column i).generated.isSome || t.rowidColumn == some i then pure .null
        else t.defaultOf cx i)
    let vals := t.stored vals
    let idValue := (given.reverse.find? fun (s, _) => t.holdsRowid s).map (·.2)
    let explicit ← match idValue with
      | some v => if v.isNull then pure none else some <$> Run.lift (rowidOf v)
      | none => pure none
    let withId (id : Int) (vs : List Value) : List Value :=
      match t.rowidColumn with
      | some i => vs.set i (.integer id)
      | none => vs
    if ((← get).db.triggersOf t.name).any fun tr => tr.timing == .before && tr.event == .insert then
      let early ← Run.lift (t.generate cx ⟨explicit.getD (-1), withId (explicit.getD (-1)) vals⟩)
      fire fuel active conflict t.name t.fields hasRowid .before .insert none (some early)
    let some t := (← get).db.table? table | pure ()
    let cx := (← get).context
    let current := (← get).db.sequenceOf t.name
    let seq := if t.autoincrement then some current else none
    let rowid ← match explicit with
      | some r => pure r
      | none => Run.lift (t.newRowid seq)
    if t.autoincrement then modify fun c => { c with db := c.db.raiseSequence t.name rowid }
    let r ← Run.lift (t.generate cx ⟨rowid, withId rowid vals⟩)
    let some vals ← Run.lift (t.fillNulls cx conflict (fun _ => true) r.values) | pure ()
    let r : Row := { r with values := vals }
    if !t.checks.isEmpty then Run.lift (t.typeCheck r.values)
    match ← Run.lift (t.failedCheck cx r) with
    | some name =>
      let rule := Table.checkRule conflict
      if rule == .ignore then return ()
      else throw (Fault.breach ("CHECK constraint failed: " ++ name) rule)
    | none => pure ()
    let indexes := (← get).db.indexesOf t.name
    let keyOfUpsert (u : Upsert) : Option UpsertKey :=
      u.target.bind fun (terms, cond) => t.upsertTarget indexes terms cond
    let resolve (own : Conflict) (k : UpsertKey) : Resolution :=
      match upserts.find? fun u => u.target.isNone || keyOfUpsert u == some k with
      | some u => if u.update.isNone then .rule .ignore else .upsert u
      | none => .rule (conflict.getD own)
    if hasRowid && explicit.isSome then
      match t.row? rowid with
      | some other =>
        match resolve t.rowidConflict .rowid with
        | .rule .replace => removeRow t.name other.rowid
        | .rule .ignore => return ()
        | .rule rule => throw (Fault.breach ("UNIQUE constraint failed: " ++ t.rowidText) rule)
        | .upsert u =>
          upsertUpdate fuel outer active t.name shown u other r returning
          return ()
      | none => pure ()
    if t.checks.isEmpty then Run.lift (t.typeCheck r.values)
    let targeted : List Index := upserts.filterMap fun u =>
      match keyOfUpsert u with
      | some (.index n) => indexes.find? fun ix => sameName ix.name n
      | _ => none
    let ordered := targeted ++ indexes.filter fun ix => !targeted.any fun j => sameName j.name ix.name
    for ix in ordered.filter (·.unique) do
      let some t := (← get).db.table? table | return ()
      match ← Run.lift (ix.keyOf cx t r) with
      | some key =>
        match ← Run.lift (ix.clash cx t key none) with
        | some other =>
          match resolve ix.conflict (.index ix.name) with
          | .rule .replace => removeRow t.name other.rowid
          | .rule .ignore => return ()
          | .rule rule => throw (Fault.breach ("UNIQUE constraint failed: " ++ ix.describe t) rule)
          | .upsert u =>
            upsertUpdate fuel outer active t.name shown u other r returning
            return ()
        | none => pure ()
      | none => pure ()
    let some t := (← get).db.table? table | return ()
    storeRow (t.place r) direct
    if hasRowid then
      modify fun c => { c with counters := { c.counters with lastRowid := rowid } }
    fire fuel active conflict t.name t.fields hasRowid .after .insert none (some r)
    Run.lift (returnRow (← get).context outer (t.frameOf shown r) returning)

/-- The `DO UPDATE` of an upsert on the row in the way of a proposed one. -/
def upsertUpdate : Nat → List Level → List String → String → String → Upsert → Row → Row →
    List ResultColumn → Run Unit
  | 0, _, _, _, _, _, _, _, _ => throw tooDeep
  | fuel + 1, outer, active, table, shown, u, existing, proposed, returning => do
    let some t := (← get).db.table? table | pure ()
    match u.update with
    | none => pure ()
    | some (sets, cond) =>
      let cx := (← get).context
      let excluded : Frame := { t.frameOf "excluded" proposed with qualifiedOnly := true }
      let lv : List Level := { frames := [t.frameOf shown existing, excluded] } :: outer
      let go ← match cond with
        | some w => do pure ((← Run.lift (eval evalFuel cx lv w)).truth == some true)
        | none => pure true
      if go then
        let assigned ← Run.lift (assignValues cx lv sets)
        let slots := assigned.map fun (n, v) => ((t.slot n).getD .rowid, v)
        updateRow fuel outer active (some .abort) table shown (assigned.map (·.1)) existing slots
          returning

/-- Runs an `UPDATE`: chooses its rows, then rewrites them one by one. -/
def updateRows : Nat → List Level → List String → Option Conflict → List Cte → String →
    Option String → List (List String × Expr) → Option Source → Option Expr → List OrderTerm →
    Option Expr → Option Expr → List ResultColumn → Run Unit
  | 0, _, _, _, _, _, _, _, _, _, _, _, _, _ => throw tooDeep
  | fuel + 1, outer, active, conflict, ctes, table, asName, sets, source, filter, order, limit,
      offset, returning => do
    let cx := (← get).context.push ctes
    let shown := asName.getD table
    let names := sets.flatMap (·.1)
    let holds (lv : List Level) : Except Fault Bool :=
      match filter with
      | some w => do pure ((← eval evalFuel cx lv w).truth == some true)
      | none => pure true
    match (← get).db.named? table with
    | some (.table t) =>
      let fromRows ← match source with
        | some s => do pure (← Run.lift (sourceRows evalFuel cx outer s)).2
        | none => pure [[]]
      let chosen ← Run.lift (t.rows.filterMapM fun r => do
        let found ← fromRows.findM? fun extra =>
          holds ({ frames := t.frameOf shown r :: extra } :: outer)
        pure (found.map fun extra => (r, extra)))
      let chosen ← Run.lift (chooseRows cx outer (fun (r, extra) => t.frameOf shown r :: extra)
        chosen order limit offset)
      chosen.forM fun (r, extra) => do
        let some cur := ((← get).db.table? table).bind (·.row? r.rowid) | pure ()
        let lv := { frames := t.frameOf shown cur :: extra } :: outer
        let assigned ← Run.lift (assignValues cx lv sets)
        let slots := assigned.map fun (n, v) => ((t.slot n).getD .rowid, v)
        updateRow fuel outer active conflict table shown (assigned.map (·.1)) cur slots returning
    | some (.view v) => do
      let rel ← Run.lift (viewRows evalFuel cx v)
      let f : Frame := { name := some shown, fields := rel.fields }
      rel.rows.forM fun vals => do
        let lv := { frames := [f.withValues vals] } :: outer
        if ← Run.lift (holds lv) then
          let assigned ← Run.lift (assignValues cx lv sets)
          let newVals := (rel.fields.zip vals).map fun (fd, v) =>
            match assigned.reverse.find? fun (n, _) => sameName n fd.name with
            | some (_, w) => w
            | none => v
          Run.skipIgnored (fire fuel active conflict v.name rel.fields false .insteadOf
            (.update names) (some ⟨0, vals⟩) (some ⟨0, newVals⟩))
    | none => pure ()

/-- Rewrites one row by values for slots. -/
def updateRow : Nat → List Level → List String → Option Conflict → String → String →
    List String → Row → List (Slot × Value) → List ResultColumn → Run Unit
  | 0, _, _, _, _, _, _, _, _, _ => throw tooDeep
  | fuel + 1, outer, active, conflict, table, shown, names, old, assigned, returning =>
    Run.skipIgnored do
    let some t := (← get).db.table? table | pure ()
    let cx := (← get).context
    let direct := active.isEmpty
    let hasRowid := !t.withoutRowid
    let setAt (i : Nat) : Option Value := (assigned.reverse.find? (·.1 == .column i)).map (·.2)
    let changed (i : Nat) : Bool := (setAt i).isSome
    let vals := (List.range t.columns.length).map fun i =>
      match setAt i with
      | some v => (t.column i).affinity.apply v
      | none => old.values.getD i .null
    let idValue := (assigned.reverse.find? fun (s, _) => t.holdsRowid s).map (·.2)
    let rowid ← match idValue with
      | some v => Run.lift (rowidOf v)
      | none => pure old.rowid
    let vals := match t.rowidColumn with
      | some i => vals.set i (.integer rowid)
      | none => vals
    let ev : Event := .update names
    if ((← get).db.triggersOf t.name).any fun tr => tr.timing == .before && tr.event.fires ev then
      fire fuel active conflict t.name t.fields hasRowid .before ev (some old) (some ⟨rowid, vals⟩)
    let some t := (← get).db.table? table | pure ()
    let some cur := t.row? old.rowid | pure ()
    let cx := (← get).context
    let vals := (List.range t.columns.length).map fun i =>
      if changed i || t.rowidColumn == some i then vals.getD i .null else cur.values.getD i .null
    let r ← Run.lift (t.generate cx ⟨rowid, vals⟩)
    let some vals ← Run.lift (t.fillNulls cx conflict
      (fun i => changed i || (t.column i).generated.isSome) r.values) | pure ()
    let r : Row := { r with values := vals }
    if !t.checks.isEmpty then Run.lift (t.typeCheck r.values)
    match ← Run.lift (t.failedCheck cx r) with
    | some name =>
      let rule := Table.checkRule conflict
      if rule == .ignore then return ()
      else throw (Fault.breach ("CHECK constraint failed: " ++ name) rule)
    | none => pure ()
    let moved := rowid != old.rowid
    if hasRowid && moved then
      match t.row? rowid with
      | some other =>
        match conflict.getD t.rowidConflict with
        | .replace => removeRow t.name other.rowid
        | .ignore => return ()
        | rule => throw (Fault.breach ("UNIQUE constraint failed: " ++ t.rowidText) rule)
      | none => pure ()
    if t.checks.isEmpty then Run.lift (t.typeCheck r.values)
    let changedNames := (List.range t.columns.length).filterMap fun i =>
      if changed i then some (t.column i).name else none
    for ix in ((← get).db.indexesOf t.name).filter (·.unique) do
      if moved || ix.mentions changedNames then
        let some t := (← get).db.table? table | return ()
        match ← Run.lift (ix.keyOf cx t r) with
        | some key =>
          match ← Run.lift (ix.clash cx t key (some old.rowid)) with
          | some other =>
            match conflict.getD ix.conflict with
            | .replace => removeRow t.name other.rowid
            | .ignore => return ()
            | rule => throw (Fault.breach ("UNIQUE constraint failed: " ++ ix.describe t) rule)
          | none => pure ()
        | none => pure ()
    let some t := (← get).db.table? table | return ()
    storeRow ((t.erase old.rowid).place r) direct
    fire fuel active conflict t.name t.fields hasRowid .after ev (some old) (some r)
    Run.lift (returnRow (← get).context outer (t.frameOf shown r) returning)

/-- Runs a `DELETE`: chooses its rows, then removes them one by one. -/
def deleteRows : Nat → List Level → List String → Option Conflict → List Cte → String →
    Option String → Option Expr → List OrderTerm → Option Expr → Option Expr →
    List ResultColumn → Run Unit
  | 0, _, _, _, _, _, _, _, _, _, _, _ => throw tooDeep
  | fuel + 1, outer, active, inherited, ctes, table, asName, filter, order, limit, offset,
      returning => do
    let cx := (← get).context.push ctes
    let shown := asName.getD table
    let holds (lv : List Level) : Except Fault Bool :=
      match filter with
      | some w => do pure ((← eval evalFuel cx lv w).truth == some true)
      | none => pure true
    match (← get).db.named? table with
    | some (.table t) =>
      let chosen ← Run.lift (t.rows.filterM fun r => holds ({ frames := [t.frameOf shown r] } :: outer))
      let chosen ← Run.lift (chooseRows cx outer (fun r => [t.frameOf shown r]) chosen order limit
        offset)
      chosen.forM fun r => deleteRow fuel outer active inherited table shown r.rowid returning
    | some (.view v) => do
      let rel ← Run.lift (viewRows evalFuel cx v)
      let f : Frame := { name := some shown, fields := rel.fields }
      rel.rows.forM fun vals => do
        if ← Run.lift (holds ({ frames := [f.withValues vals] } :: outer)) then
          Run.skipIgnored (fire fuel active inherited v.name rel.fields false .insteadOf .delete
            (some ⟨0, vals⟩) none)
    | none => pure ()

/-- Removes one row by id, with its triggers. -/
def deleteRow : Nat → List Level → List String → Option Conflict → String → String → Int →
    List ResultColumn → Run Unit
  | 0, _, _, _, _, _, _, _ => throw tooDeep
  | fuel + 1, outer, active, inherited, table, shown, rowid, returning => Run.skipIgnored do
    let some t := (← get).db.table? table | pure ()
    let some old := t.row? rowid | pure ()
    fire fuel active inherited t.name t.fields (!t.withoutRowid) .before .delete (some old) none
    let some t := (← get).db.table? table | pure ()
    let some old := t.row? rowid | pure ()
    storeRow (t.erase rowid) active.isEmpty
    fire fuel active inherited t.name t.fields (!t.withoutRowid) .after .delete (some old) none
    Run.lift (returnRow (← get).context outer (t.frameOf shown old) returning)

/-- Fires the triggers of a table or view for the change of a row. -/
def fire : Nat → List String → Option Conflict → String → List Field → Bool → Timing → Event →
    Option Row → Option Row → Run Unit
  | 0, _, _, _, _, _, _, _, _, _ => throw tooDeep
  | fuel + 1, active, inherited, table, fields, hasRowid, timing, ev, old, new => do
    let trigs := ((← get).db.triggersOf table).filter fun tr =>
      tr.timing == timing && tr.event.fires ev && !active.any (sameName · tr.name)
    for tr in trigs do
      let lv := triggerLevel fields hasRowid old new
      let go ← match tr.whenever with
        | some w => do pure ((← Run.lift (eval evalFuel (← get).context [lv] w)).truth == some true)
        | none => pure true
      if go then
        let saved := (← get).counters.lastRowid
        tr.body.forM fun s => runChange fuel [lv] (tr.name :: active) inherited s
        modify fun c => { c with counters := { c.counters with lastRowid := saved } }

end

end Sql

end TelemetryBridge
