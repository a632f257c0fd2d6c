import TelemetryBridge.Sql.Change

/-!
# Checking statements that change rows

Before an `INSERT`, `UPDATE` or `DELETE` runs, it is checked against the schema, in this order:

* **The target.** The catalogue may not be modified (`table sqlite_master may not be
  modified`); the table must exist (`no such table: t`); a view takes changes only through
  `INSTEAD OF` triggers for the event (`cannot modify v because it is a view`).
* **`INSERT`.** The named columns must exist (`table t has no column named c`; the row id is a
  column here), and none may be generated. Then the rows' query is checked, then their width
  against the columns: `table t has 3 columns but 2 values were supplied` without a column
  list, `2 values for 3 columns` with one. An upsert's target must name a uniqueness key
  (`ON CONFLICT clause does not match any PRIMARY KEY or UNIQUE constraint`), and its
  assignments are checked with `excluded` in scope.
* **`UPDATE`.** Each assignment's value is checked and then its column, which must exist (`no
  such column: c`) and not be generated; with `FROM` all column names come first, then the
  sources, the values and the condition. Then the condition.
* **`DELETE`.** The condition.
* Then the `RETURNING` columns, and the bodies of the triggers the change may fire, with `old`
  and `new` in scope (a trigger not within itself).

Main definitions: `Sql.changeTarget`, `Sql.checkChange`.
-/

namespace TelemetryBridge

namespace Sql

/-- The table a statement changes rows of, or for a view whose `INSTEAD OF` triggers take the
change none: with the fields of its columns. -/
def changeTarget (cx : Context) (name : String) (ev : Event) :
    Except String (Option Table × List Field) :=
  match catalogueOf? name with
  | some temp =>
    .error ("table " ++ (if temp then "sqlite_temp_master" else "sqlite_master") ++
      " may not be modified")
  | none =>
    match cx.db.named? name with
    | some (.table t) => .ok (some t, t.fields)
    | some (.view v) =>
      if (cx.db.triggersOf v.name).any fun tr => tr.timing == .insteadOf && tr.event.fires ev then
        do pure (none, ← faultText (viewFields evalFuel cx v))
      else .error ("cannot modify " ++ v.name ++ " because it is a view")
    | none => .error ("no such table: " ++ name)

/-- The frame of a statement's target under the name it is known by. -/
def targetFrame (target : Option Table) (fields : List Field) (shown : String) : Frame :=
  match target with
  | some t => Frame.ofTable t shown
  | none => { name := some shown, fields }

/-- Checks that an assignment names a column of the target: it must exist, and not be
generated. -/
def checkAssigned (target : Option Table) (fields : List Field) (n : String) :
    Except String Unit :=
  match target with
  | some t =>
    match t.columnIndex n with
    | some i =>
      if (t.column i).generated.isSome then
        .error ("cannot UPDATE generated column \"" ++ (t.column i).name ++ "\"")
      else .ok ()
    | none => if !t.withoutRowid && isRowidName n then .ok () else .error ("no such column: " ++ n)
  | none => if fields.any (sameName ·.name n) then .ok () else .error ("no such column: " ++ n)

/-- Checks that the row values assigned to several columns have as many items. -/
def checkVectors (sets : List (List String × Expr)) : Except String Unit :=
  sets.forM fun (ns, e) =>
    match ns, e with
    | _ :: _ :: _, .vector items =>
      if items.length != ns.length then
        .error (toString ns.length ++ " columns assigned " ++ toString items.length ++ " values")
      else .ok ()
    | _, _ => .ok ()

/-- Checks the `RETURNING` columns of a statement against its target. -/
def checkReturning (cx : Context) (outer : List Level) (pl : Place) (frame : Frame)
    (cols : List ResultColumn) : Except String Unit :=
  cols.forM fun
    | .expr e _ _ => checkExpr evalFuel cx ({ frames := [frame] } :: outer) pl e
    | _ => .ok ()

mutual

/-- Checks a statement that changes rows, or a query, in a scope (a trigger's, inside one);
`active` lists the triggers whose bodies are being checked. -/
def checkChange : Nat → Context → List Level → Bool → List String → Statement → Except String Unit
  | 0, _, _, _, _, _ => .ok ()
  | fuel + 1, cx, outer, inTrigger, active, s =>
    let pl : Place := { trigger := inTrigger }
    match s with
    | .query q => do
      let _ ← checkQuery evalFuel cx outer pl q
    | .insert ctes _ table asName columns rows upserts returning => do
      upserts.forM fun u => checkVectors ((u.update.map (·.1)).getD [])
      let cx := cx.push ctes
      let shown := asName.getD table
      let (target, fields) ← changeTarget cx table .insert
      let hasRowid := (target.map fun t => !t.withoutRowid).getD false
      match columns with
      | some ns =>
        ns.forM fun n =>
          match fields.findIdx? fun f => sameName f.name n with
          | some i =>
            match target with
            | some t =>
              if (t.column i).generated.isSome then
                throw ("cannot INSERT into generated column \"" ++ (t.column i).name ++ "\"")
              else pure ()
            | none => pure ()
          | none =>
            if hasRowid && isRowidName n then pure ()
            else throw ("table " ++ shown ++ " has no column named " ++ n)
      | none => pure ()
      let width ← match rows with
        | .defaults => pure none
        | .query q => do pure (some (← checkQuery evalFuel cx outer pl q).length)
      match width, columns with
      | some w, none =>
        let n := match target with
          | some t => (t.columns.filter fun c => c.generated.isNone).length
          | none => fields.length
        if w != n then
          throw ("table " ++ shown ++ " has " ++ toString n ++ " columns but " ++ toString w ++
            " values were supplied")
      | some w, some ns =>
        if w != ns.length then
          throw (toString w ++ " values for " ++ toString ns.length ++ " columns")
      | none, _ => pure ()
      let frame := targetFrame target fields shown
      match target with
      | some t =>
        let indexes := cx.db.indexesOf t.name
        upserts.forM fun u =>
          match u.target with
          | some (terms, cond) => do
            terms.forM fun term => checkExpr evalFuel cx [{ frames := [frame] }] pl term.expr
            match cond with
            | some c => checkExpr evalFuel cx [{ frames := [frame] }] pl c
            | none => pure ()
            if (t.upsertTarget indexes terms cond).isNone then
              throw "ON CONFLICT clause does not match any PRIMARY KEY or UNIQUE constraint"
          | none => pure ()
        let excluded : Frame := { Frame.ofTable t "excluded" with qualifiedOnly := true }
        upserts.forM fun u =>
          match u.update with
          | some (sets, cond) => do
            let lv := { frames := [frame, excluded] } :: outer
            sets.forM fun (ns, e) => do
              checkExpr evalFuel cx lv pl e
              ns.forM (checkAssigned target fields)
            match cond with
            | some c => checkExpr evalFuel cx lv pl c
            | none => pure ()
          | none => pure ()
      | none => if !upserts.isEmpty then throw "cannot UPSERT a view" else pure ()
      checkReturning cx outer pl frame returning
      checkTriggers fuel cx active table fields hasRowid .insert
      match target with
      | some _ =>
        upserts.forM fun u =>
          match u.update with
          | some (sets, _) =>
            checkTriggers fuel cx active table fields hasRowid (.update (sets.flatMap (·.1)))
          | none => pure ()
      | none => pure ()
    | .update ctes _ table asName sets source filter order limit offset returning => do
      checkVectors sets
      let cx := cx.push ctes
      let shown := asName.getD table
      let names := sets.flatMap (·.1)
      let (target, fields) ← changeTarget cx table (.update names)
      let hasRowid := (target.map fun t => !t.withoutRowid).getD false
      let frame := targetFrame target fields shown
      match source with
      | none =>
        let lv := { frames := [frame] } :: outer
        sets.forM fun (ns, e) => do
          checkExpr evalFuel cx lv pl e
          ns.forM (checkAssigned target fields)
        match filter with
        | some w => checkExpr evalFuel cx lv pl w
        | none => pure ()
        order.forM fun (.term e _ _) => checkExpr evalFuel cx lv pl e
      | some src =>
        names.forM (checkAssigned target fields)
        let joined : Source := .join (.table table asName) .inner false src none []
        let cols := sets.map fun (_, e) => ResultColumn.expr e none ""
        let _ ← checkQuery evalFuel cx outer pl
          (.query [] false (.select false cols (some joined) filter [] none []) [] [] none none)
      match limit with
      | some e => checkExpr evalFuel cx [] pl e
      | none => pure ()
      match offset with
      | some e => checkExpr evalFuel cx [] pl e
      | none => pure ()
      checkReturning cx outer pl frame returning
      checkTriggers fuel cx active table fields hasRowid (.update names)
    | .delete ctes table asName filter order limit offset returning => do
      let cx := cx.push ctes
      let shown := asName.getD table
      let (target, fields) ← changeTarget cx table .delete
      let hasRowid := (target.map fun t => !t.withoutRowid).getD false
      let frame := targetFrame target fields shown
      let lv := { frames := [frame] } :: outer
      match filter with
      | some w => checkExpr evalFuel cx lv pl w
      | none => pure ()
      order.forM fun (.term e _ _) => checkExpr evalFuel cx lv pl e
      match limit with
      | some e => checkExpr evalFuel cx [] pl e
      | none => pure ()
      match offset with
      | some e => checkExpr evalFuel cx [] pl e
      | none => pure ()
      checkReturning cx outer pl frame returning
      checkTriggers fuel cx active table fields hasRowid .delete
    | _ => pure ()

/-- Checks the conditions and bodies of the triggers a change of a table may fire. -/
def checkTriggers : Nat → Context → List String → String → List Field → Bool → Event →
    Except String Unit
  | 0, _, _, _, _, _, _ => .ok ()
  | fuel + 1, cx, active, table, fields, hasRowid, ev =>
    let trigs := (cx.db.triggersOf table).filter fun tr =>
      tr.event.fires ev && !active.any (sameName · tr.name)
    trigs.forM fun tr => do
      let old := match ev with
        | .insert => none
        | _ => some default
      let new := match ev with
        | .delete => none
        | _ => some default
      let lv := triggerLevel fields hasRowid old new
      match tr.whenever with
      | some w => checkExpr evalFuel cx [lv] { trigger := true } w
      | none => pure ()
      tr.body.forM (checkChange fuel cx [lv] true (tr.name :: active))

end

end Sql

end TelemetryBridge
