import TelemetryBridge.Sql.Define
import TelemetryBridge.Sql.Parse.Statement

/-!
# Connections and transactions

A **session** is a connection to a database file: the file's schema with the connection's own
temporary schema, the connection's counters, and the open transaction, if any.

* **Running a text.** Statements are read and run one at a time; the first that fails to read,
  to check or to run ends the text, and the ones before it keep their effect. A statement with
  parameters fails after its checks, as no value is bound to them.
* **Statements are atomic.** A failing statement changes nothing, except under the conflict
  rule `FAIL` (the rows it changed stay changed) and `ROLLBACK` (the whole transaction is
  undone).
* **Transactions.** Outside a transaction each statement is kept as soon as it succeeds.
  `BEGIN` opens a transaction, `COMMIT` (or `END`) keeps it, `ROLLBACK` undoes it. `SAVEPOINT`
  marks a point (opening a transaction when none is open), `ROLLBACK TO` returns to it, and
  `RELEASE` forgets it and the ones after it; releasing the first of a transaction that a
  savepoint opened keeps the transaction.
* **Closing** a connection undoes its open transaction and forgets its temporary schema; the
  file keeps its schema as the last kept state left it.
* **Counting.** After a statement that changes rows, `changes()` gives the number of rows it
  changed itself (not those its triggers changed) and `total_changes()` adds them up;
  `last_insert_rowid()` is the row id of the last row inserted outside of triggers.

Main definitions: `Sql.Session`, `Sql.Session.execute`, `Sql.Session.close`,
`Sql.Database.query`.
-/

namespace TelemetryBridge

namespace Sql

/-- A connection: its state, the state when the open transaction began, whether a savepoint
began it, and the savepoints with the states they mark, the latest first. -/
structure Session where
  conn : Conn := {}
  transaction : Option Database := none
  bySavepoint : Bool := false
  savepoints : List (String × Database) := []
  deriving Inhabited

/-- How deeply statements and triggers may nest. -/
def changeFuel : Nat := 10000

namespace Session

/-- A connection to a database file: its schema, with an empty temporary schema. -/
def start (db : Database) : Session := { conn := { db := { main := db.main } } }

/-- The state of evaluation for a statement. -/
def context (s : Session) : Context := s.conn.context

/-- The session with a new database. -/
def withDb (s : Session) (db : Database) : Session := { s with conn := { s.conn with db } }

/-- Ends the open transaction. -/
def settle (s : Session) : Session := { s with transaction := none, savepoints := [], bySavepoint := false }

/-- Sets the counters. -/
def withCounters (s : Session) (counters : Counters) : Session :=
  { s with conn := { s.conn with counters } }

/-- Runs a statement that changes rows, under the rules of atomicity and counting. -/
def change (s : Session) (stmt : Statement) : Session × Option String :=
  let start := s.conn
  match (runChange changeFuel [] [] none stmt).run { start with changed := 0 } with
  | .ok _ c =>
    let counters := { c.counters with changes := c.changed,
                                      totalChanges := c.counters.totalChanges + c.changed }
    ({ s with conn := { c with counters } }, none)
  | .error f c =>
    match f.action with
    | .fail =>
      let counters := { c.counters with changes := c.changed,
                                        totalChanges := c.counters.totalChanges + c.changed }
      ({ s with conn := { c with counters } }, some f.message)
    | .rollback =>
      let db := s.transaction.getD start.db
      let counters := { c.counters with changes := 0 }
      ((s.settle.withDb db) |>.withCounters counters, some f.message)
    | _ =>
      let counters := { c.counters with changes := 0 }
      ({ s with conn := { start with counters } }, some f.message)

/-- Runs one statement read with its parameter count. -/
def step (s : Session) (p : Prepared) : Session × Option String :=
  let cx := s.context
  let db := s.conn.db
  let define (r : Except String Database) : Session × Option String :=
    match r with
    | .ok db => (s.withDb db, none)
    | .error m => (s, some m)
  let prepared (r : Except String Unit) (run : Unit → Session × Option String) :
      Session × Option String :=
    match r with
    | .error m => (s, some m)
    | .ok () =>
      match unbound p.parameters with
      | .error m => (s, some m)
      | .ok () => run ()
  match p.statement with
  | .query q =>
    prepared (do let _ ← checkQuery evalFuel cx [] {} q) fun _ =>
      match evalQuery evalFuel cx [] q with
      | .ok _ => (s, none)
      | .error f => (s, some f.message)
  | .insert .. | .update .. | .delete .. =>
    prepared (checkChange changeFuel cx [] false [] p.statement) fun _ => s.change p.statement
  | .createTable temp ine n cols shape text =>
    define (createTable cx temp ine n cols shape text p.parameters)
  | .createTableAs temp ine n q => define (createTableAs cx temp ine n q p.parameters)
  | .createIndex unique ine n t terms filter text =>
    define (createIndex cx unique ine n t terms filter text p.parameters)
  | .createView temp ine n cols q text => define (createView db temp ine n cols q text p.parameters)
  | .createTrigger temp ine n timing event t whenever body text =>
    define (createTrigger db temp ine n timing event t whenever body text p.parameters)
  | .drop kind ie n => define (dropObject db kind ie n p.parameters)
  | .alterTable n change => define (alterTable cx n change p.parameters)
  | .begin =>
    prepared (.ok ()) fun _ =>
      match s.transaction with
      | some _ => (s, some "cannot start a transaction within a transaction")
      | none => ({ s with transaction := some db }, none)
  | .commit =>
    prepared (.ok ()) fun _ =>
      match s.transaction with
      | some _ => (s.settle, none)
      | none => (s, some "cannot commit - no transaction is active")
  | .rollback none =>
    prepared (.ok ()) fun _ =>
      match s.transaction with
      | some before => (s.settle.withDb before, none)
      | none => (s, some "cannot rollback - no transaction is active")
  | .rollback (some name) =>
    prepared (.ok ()) fun _ =>
      match s.savepoints.findIdx? fun (n, _) => sameName n name with
      | some i =>
        let (_, marked) := s.savepoints.getD i default
        ({ s.withDb marked with savepoints := s.savepoints.drop i }, none)
      | none => (s, some ("no such savepoint: " ++ name))
  | .savepoint name =>
    prepared (.ok ()) fun _ =>
      match s.transaction with
      | some _ => ({ s with savepoints := (name, db) :: s.savepoints }, none)
      | none =>
        ({ s with transaction := some db, bySavepoint := true, savepoints := [(name, db)] }, none)
  | .release name =>
    prepared (.ok ()) fun _ =>
      match s.savepoints.findIdx? fun (n, _) => sameName n name with
      | some i =>
        let rest := s.savepoints.drop (i + 1)
        if rest.isEmpty && s.bySavepoint then (s.settle, none)
        else ({ s with savepoints := rest }, none)
      | none => (s, some ("no such savepoint: " ++ name))
  | .nothing => prepared (.ok ()) fun _ => (s, none)
  | .vacuum =>
    prepared (.ok ()) fun _ =>
      if s.transaction.isSome then (s, some "cannot VACUUM from within a transaction")
      else (s, none)
  | .explain inner =>
    let check : Except String Unit := match inner with
      | .query q => do let _ ← checkQuery evalFuel cx [] {} q
      | .insert .. | .update .. | .delete .. => checkChange changeFuel cx [] false [] inner
      | _ => .ok ()
    prepared check fun _ => (s, none)

/-- Runs statements from tokens until they end or one fails; `fuel` bounds their number. -/
def runTokens (s : Session) : Nat → List Lexeme → Session × Option String
  | 0, _ => (s, none)
  | fuel + 1, ts =>
    match nextStatement ts with
    | .error m => (s, some m)
    | .ok (none, _) => (s, none)
    | .ok (some p, rest) =>
      match s.step p with
      | (s, some m) => (s, some m)
      | (s, none) => s.runTokens fuel rest

/-- Runs the statements of a text in order: the session after them, and the message of the
statement that failed, if one did. -/
def execute (s : Session) (text : String) : Session × Option String :=
  let ts := tokenize text
  s.runTokens (ts.length + 1) ts

/-- The file's schema when the connection closes: its open transaction undone, its temporary
schema gone. -/
def close (s : Session) : Database := { main := (s.transaction.getD s.conn.db).main }

end Session

/-- Runs a query text on a database through a new connection: the result, or the message of
the failure. -/
def Database.query (db : Database) (text : String) : Except String Relation :=
  match nextStatement (tokenize text) with
  | .ok (some p, _) =>
    match p.statement with
    | .query q => do
      let cx : Context := { db := { main := db.main } }
      let _ ← checkQuery evalFuel cx [] {} q
      unbound p.parameters
      faultText (evalQuery evalFuel cx [] q)
    | _ => .error "not a query"
  | .ok (none, _) => .error "not a query"
  | .error m => .error m

end Sql

end TelemetryBridge
