import TelemetryBridge.Sql.Parse.Query

/-!
# Parsing statements

Each statement is read in full, up to the `;` that ends it or the end of the text, so a trigger
body with its own `;`s stays inside its statement. The statements:

* queries, and `WITH … INSERT | UPDATE | DELETE`;
* `CREATE [TEMP] TABLE` (with column and table constraints and the options `WITHOUT ROWID` and
  `STRICT`, or `AS` a query), `CREATE [UNIQUE] INDEX`, `CREATE [TEMP] VIEW`,
  `CREATE [TEMP] TRIGGER`, and `DROP` of each;
* `INSERT [OR rule] | REPLACE` with `VALUES`, a query or `DEFAULT VALUES`, upserts and
  `RETURNING`; `UPDATE [OR rule] … SET … [FROM …] [WHERE …]`; `DELETE FROM … [WHERE …]`;
* `ALTER TABLE` renaming the table or a column, adding or dropping a column;
* `BEGIN`, `COMMIT`/`END`, `ROLLBACK [TO …]`, `SAVEPOINT`, `RELEASE`;
* `PRAGMA`, `VACUUM`, `ANALYZE`, `REINDEX`, `ATTACH`, `DETACH`, which change nothing here, and
  `EXPLAIN`, which prepares its statement without running it.

The declared type of a column is kept as the catalogue keeps it (`declaredType`): a trailing
`GENERATED ALWAYS` is no part of it, a standard type name is kept in capitals, and any other
type that starts with a quote keeps only its first quoted run.

Main definitions: `Sql.Parse.statement`, `Sql.nextStatement`.
-/

namespace TelemetryBridge

namespace Sql

namespace Parse

/-- Whether a character opens a quoted name or text. -/
def isQuoteChar (c : Char) : Bool := c == '"' || c == '\'' || c == '[' || c == '`'

/-- The characters up to a closing quote, a doubled closing quote standing for one. -/
def quotedRun (close : Char) : List Char → List Char
  | [] => []
  | [c] => if c == close then [] else [c]
  | c :: d :: more =>
    if c == close then (if d == close then close :: quotedRun close more else [])
    else c :: quotedRun close (d :: more)

/-- The text inside the quotes a text starts with; what follows the closing quote is dropped.
A text that starts with no quote is kept. -/
def dequote (s : String) : String :=
  match s.toList with
  | q :: rest => if isQuoteChar q then String.ofList (quotedRun (if q == '[' then ']' else q) rest) else s
  | [] => s

/-- Drops the first and the last character of a text that starts with a quote and holds no
other quote character between them. -/
def unwrap (s : String) : String :=
  let cs := s.toList
  match cs with
  | q :: _ =>
    if isQuoteChar q && cs.length ≥ 2 && !((cs.drop 1).dropLast.any isQuoteChar) then
      String.ofList (cs.drop 1).dropLast
    else s
  | [] => s

/-- The standard type names. -/
def standardTypes : List String := ["INT", "INTEGER", "REAL", "TEXT", "BLOB", "ANY"]

/-- Whether a list of characters ends with an ASCII word, in any case. -/
def endsWithWord (cs : List Char) (w : String) : Bool :=
  cs.length ≥ w.length && nameKey (String.ofList (cs.drop (cs.length - w.length))) == nameKey w

/-- Drops blanks at the end. -/
def trimEnd (cs : List Char) : List Char := (cs.reverse.dropWhile isSpaceChar).reverse

/-- Drops blanks at both ends of a text. -/
def trimBlanks (s : String) : String := String.ofList (trimEnd (s.toList.dropWhile isSpaceChar))

/-- A type of at least 16 bytes that ends in `ALWAYS`, possibly after `GENERATED`, loses them:
the type words take in the start of `GENERATED ALWAYS AS`. -/
def withoutGenerated (s : String) : String :=
  let cs := s.toList
  if s.utf8ByteSize ≥ 16 && endsWithWord cs "ALWAYS" then
    let cs := trimEnd (cs.take (cs.length - 6))
    if (String.ofList cs).utf8ByteSize ≥ 9 && endsWithWord cs "GENERATED" then
      String.ofList (trimEnd (cs.take (cs.length - 9)))
    else String.ofList cs
  else s

/-- The declared type of a column as the catalogue keeps it, from the type as written, and
whether a type is declared. -/
def declaredType (written : String) : String × Bool :=
  let t := withoutGenerated written
  if t.isEmpty then ("", false)
  else
    let u := if t.utf8ByteSize ≥ 3 then unwrap t else t
    match standardTypes.find? (· == nameKey u) with
    | some n => (n, true)
    | none => (dequote u, true)

/-- The number of tokens left, as fuel for the parsers of nested forms. -/
def fuelLeft : Parse Nat := do pure (16 * ((← get).length + 2))

/-- An expression, with fuel from the tokens left. -/
def anyExpr : Parse Expr := do expr (← fuelLeft)

/-- A query, with fuel from the tokens left. -/
def anyQuery : Parse Query := do query (← fuelLeft)

/-- Reads `( expr )`: the expression, and the text between the brackets without the blanks
at either end. -/
def bracketedWithText : Parse (Expr × String) := do
  expectOp "("
  let before ← get
  let e ← anyExpr
  let after ← get
  expectOp ")"
  let taken := before.take (before.length - after.length)
  let closing := match after with
    | l :: _ => l.gap
    | [] => ""
  let text := match taken with
    | [] => ""
    | l :: _ => l.gap ++ spanText taken ++ closing
  pure (e, trimBlanks text)

/-- An optional `ON CONFLICT` rule. -/
def onConflict : Parse (Option Conflict) := do
  if ← keyword "ON" then
    expectKeyword "CONFLICT"
    some <$> conflictWord
  else pure none

/-- Whether the token after the next one is the keyword `k`. -/
def secondIsKeyword (k : String) : Parse Bool := do
  match ← peekSecond with
  | some (.word w) => pure (upper w == k)
  | _ => pure false

/-- An optional `INITIALLY DEFERRED` or `INITIALLY IMMEDIATE`. -/
def initially : Parse Unit := do
  if ← keyword "INITIALLY" then
    if !(← keyword "DEFERRED") then expectKeyword "IMMEDIATE"

/-- The actions, matching and deferral after the table of `REFERENCES`; `fuel` bounds their
number. -/
def referenceClauses : Nat → Parse Unit
  | 0 => pure ()
  | fuel + 1 => do
    if ← keyword "ON" then
      if !(← keyword "DELETE") then expectKeyword "UPDATE"
      if ← keyword "SET" then
        if !(← keyword "NULL") then expectKeyword "DEFAULT"
      else if ← keyword "CASCADE" then pure ()
      else if ← keyword "RESTRICT" then pure ()
      else
        expectKeyword "NO"
        expectKeyword "ACTION"
      referenceClauses fuel
    else if ← keyword "MATCH" then
      let _ ← name
      referenceClauses fuel
    else if ← keyword "DEFERRABLE" then
      initially
      referenceClauses fuel
    else if (← atKeyword "NOT") && (← secondIsKeyword "DEFERRABLE") then
      advance
      advance
      initially
      referenceClauses fuel
    else pure ()

/-- The words after `REFERENCES`, which are read and dropped: the table, its columns, and the
actions and deferral. -/
def references : Parse Unit := do
  let _ ← name
  if ← atOp "(" then let _ ← bracketed name
  referenceClauses ((← get).length + 1)

/-- A literal term of a `DEFAULT`: a number, text, blob, `NULL` or the current time. -/
def defaultTerm : Parse Expr := do
  match ← peek with
  | some (.num t) =>
    advance
    match numberValue t false with
    | .ok e => pure e
    | .error m => throw m
  | some (.str s) => advance; pure (.lit (.text s))
  | some (.blob b) => advance; pure (.lit (.blob b))
  | some (.word w) =>
    match upper w with
    | "NULL" => advance; pure (.lit .null)
    | "CURRENT_DATE" | "CURRENT_TIME" | "CURRENT_TIMESTAMP" =>
      advance
      let n := (upper w).toLower
      pure (.call n n false [] false none)
    | _ => syntaxError
  | _ => syntaxError

/-- The value after `DEFAULT`: an expression in brackets, a signed literal, or a name, which
stands for its text (`TRUE` and `FALSE` for `1` and `0`). -/
def defaultValue : Parse Expr := do
  if ← atOp "(" then
    expectOp "("
    let e ← anyExpr
    expectOp ")"
    pure e
  else if ← op "-" then
    match ← peek with
    | some (.num t) =>
      match numberValue t true with
      | .error m => throw m
      | .ok _ => pure (.unary .negate (← defaultTerm))
    | _ => pure (.unary .negate (← defaultTerm))
  else if ← op "+" then defaultTerm
  else
    match ← peek with
    | some (.word w) =>
      match upper w with
      | "TRUE" => advance; pure (.lit (.integer 1))
      | "FALSE" => advance; pure (.lit (.integer 0))
      | "NULL" | "CURRENT_DATE" | "CURRENT_TIME" | "CURRENT_TIMESTAMP" => defaultTerm
      | _ => if isReserved w || isJoinWord w then syntaxError else advance; pure (.lit (.text w))
    | some (.quoted t _) =>
      advance
      let u := upper t
      pure (if u == "TRUE" then .lit (.integer 1) else if u == "FALSE" then .lit (.integer 0)
        else .lit (.text t))
    | _ => defaultTerm

/-- The constraints of a column definition; `pending` is a constraint name not used yet. -/
def columnConstraints : Nat → Option String → ColumnDef → Parse ColumnDef
  | 0, _, c => pure c
  | fuel + 1, pending, c => do
    match ← peek with
    | some (.word w) =>
      match upper w with
      | "CONSTRAINT" =>
        advance
        let n ← name
        columnConstraints fuel (some n) c
      | "PRIMARY" =>
        advance
        expectKeyword "KEY"
        let descending ← keyword "DESC"
        if !descending then let _ ← keyword "ASC"
        let conflict ← onConflict
        let autoincrement ← keyword "AUTOINCREMENT"
        let c := { c with primaryKey := true, descending := descending }
        columnConstraints fuel none
          { c with autoincrement := autoincrement, primaryConflict := conflict.getD .abort }
      | "NOT" =>
        advance
        expectKeyword "NULL"
        let conflict ← onConflict
        columnConstraints fuel none { c with notNull := true, notNullConflict := conflict.getD .abort }
      | "NULL" =>
        advance
        let _ ← onConflict
        columnConstraints fuel none c
      | "UNIQUE" =>
        advance
        let conflict ← onConflict
        columnConstraints fuel none { c with unique := true, uniqueConflict := conflict.getD .abort }
      | "CHECK" =>
        advance
        let (e, text) ← bracketedWithText
        columnConstraints fuel none { c with checks := c.checks ++ [(pending.getD text, e)] }
      | "DEFAULT" =>
        advance
        let d ← defaultValue
        columnConstraints fuel none { c with default := some d }
      | "COLLATE" =>
        advance
        let n ← name
        columnConstraints fuel none { c with collation := some n }
      | "REFERENCES" =>
        advance
        references
        columnConstraints fuel none c
      | "DEFERRABLE" =>
        advance
        initially
        columnConstraints fuel none c
      | "GENERATED" =>
        advance
        expectKeyword "ALWAYS"
        expectKeyword "AS"
        columnConstraints fuel none (← generated c)
      | "AS" =>
        advance
        columnConstraints fuel none (← generated c)
      | _ => pure c
    | _ => pure c
where
  generated (c : ColumnDef) : Parse ColumnDef := do
    expectOp "("
    let e ← anyExpr
    expectOp ")"
    let stored ← match ← peek with
      | some (.word w) =>
        if upper w == "STORED" then advance; pure true
        else if upper w == "VIRTUAL" then advance; pure false
        else if isReserved w then pure false
        else throw ("error in generated column \"" ++ c.name ++ "\"")
      | _ => pure false
    pure { c with generated := some (e, stored) }

/-- A column definition: a name, a declared type and constraints. -/
def columnDef : Parse ColumnDef := do
  let n ← name
  let (declared, typed) := declaredType (← typeText)
  columnConstraints ((← get).length + 1) none { name := n, declared, typed }

/-- A term of a key or index: an expression with a collation and an order. -/
def indexTerm : Parse IndexTerm := do
  let e ← anyExpr
  let (e, collation) := match e with
    | .collate inner c => (inner, some c)
    | e => (e, none)
  let descending ← keyword "DESC"
  if !descending then let _ ← keyword "ASC"
  if ← keyword "NULLS" then
    if ← keyword "FIRST" then throw "unsupported use of NULLS FIRST"
    expectKeyword "LAST"
    throw "unsupported use of NULLS LAST"
  pure { expr := e, collation, descending }

/-- A column of a `PRIMARY KEY` or `UNIQUE` table constraint: a name (or a text naming one). -/
def keyColumnOf (t : IndexTerm) : Except String KeyColumn :=
  match t.expr with
  | .column none n _ => .ok { name := n, collation := t.collation, descending := t.descending }
  | .lit (.text n) => .ok { name := n, collation := t.collation, descending := t.descending }
  | _ => .error "expressions prohibited in PRIMARY KEY and UNIQUE constraints"

/-- What the definitions of a table give: columns, and what the table constraints say. -/
structure Definitions where
  columns : List ColumnDef := []
  shape : TableShape := {}

/-- Whether a table constraint starts next. -/
def atTableConstraint : Parse Bool := do
  pure ((← atKeyword "CONSTRAINT") || (← atKeyword "PRIMARY") || (← atKeyword "UNIQUE") ||
    (← atKeyword "CHECK") || (← atKeyword "FOREIGN"))

/-- One table constraint, with the name a `CONSTRAINT` before it gave. -/
def tableConstraint (d : Definitions) : Parse Definitions := do
  let pending ← if ← keyword "CONSTRAINT" then some <$> name else pure none
  if ← keyword "PRIMARY" then
    expectKeyword "KEY"
    expectOp "("
    let terms ← commaList indexTerm ((← get).length + 1) []
    let autoincrement ← keyword "AUTOINCREMENT"
    expectOp ")"
    let conflict ← onConflict
    let cols ← match terms.mapM keyColumnOf with
      | .ok cs => pure cs
      | .error m => throw m
    let shape := { d.shape with primary := some cols, autoincrement := autoincrement }
    pure { d with shape := { shape with primaryConflict := conflict.getD .abort } }
  else if ← keyword "UNIQUE" then
    let terms ← bracketed indexTerm
    let conflict ← onConflict
    let cols ← match terms.mapM keyColumnOf with
      | .ok cs => pure cs
      | .error m => throw m
    pure { d with shape := { d.shape with uniques := d.shape.uniques ++ [(cols, conflict.getD .abort)] } }
  else if ← keyword "CHECK" then
    let (e, text) ← bracketedWithText
    let _ ← onConflict
    pure { d with shape := { d.shape with checks := d.shape.checks ++ [(pending.getD text, e)] } }
  else if ← keyword "FOREIGN" then
    expectKeyword "KEY"
    let _ ← bracketed name
    expectKeyword "REFERENCES"
    references
    pure d
  else if pending.isSome then pure d
  else syntaxError

/-- Table constraints, separated by optional commas; `fuel` bounds their number. -/
def tableConstraints : Nat → Definitions → Parse Definitions
  | 0, d => pure d
  | fuel + 1, d => do
    let d ← tableConstraint d
    if ← op "," then tableConstraints fuel d
    else if ← atTableConstraint then tableConstraints fuel d
    else pure d

/-- Column definitions and then table constraints, up to the closing bracket; `fuel` bounds
the number of columns. -/
def definitions : Nat → Definitions → Parse Definitions
  | 0, d => pure d
  | fuel + 1, d => do
    let c ← columnDef
    let d := { d with columns := d.columns ++ [c] }
    if ← op "," then
      if ← atTableConstraint then tableConstraints ((← get).length + 1) d
      else definitions fuel d
    else pure d

/-- One option after a table definition, `WITHOUT ROWID` or `STRICT`, put in a shape. -/
def tableOption (shape : TableShape) : Parse TableShape := do
  if ← keyword "WITHOUT" then
    let (_, written) ← nameWritten
    if upper written == "ROWID" then pure { shape with withoutRowid := true }
    else throw ("unknown table option: " ++ written)
  else
    let (_, written) ← nameWritten
    if upper written == "STRICT" then pure { shape with strict := true }
    else throw ("unknown table option: " ++ written)

/-- The options after a table definition, separated by commas; `fuel` bounds their number. -/
def tableOptions : Nat → TableShape → Parse TableShape
  | 0, shape => pure shape
  | fuel + 1, shape => do
    let shape ← tableOption shape
    if ← op "," then tableOptions fuel shape else pure shape

/-- Whether the statement ends next. -/
def atEnd : Parse Bool := do
  match ← peek with
  | none | some (.op ";") => pure true
  | _ => pure false

/-- `IF NOT EXISTS`, if it comes next. -/
def ifNotExists : Parse Bool := do
  if ← keyword "IF" then
    expectKeyword "NOT"
    expectKeyword "EXISTS"
    pure true
  else pure false

/-- A schema name and an object name: whether the schema is the temporary one, and the name. -/
def objectName : Parse (Bool × String) := do
  let (schema, n) ← qualifiedName
  match schema with
  | some s =>
    let k := upper s
    if k == "TEMP" || k == "TEMPORARY" then pure (true, n)
    else if k == "MAIN" then pure (false, n)
    else throw ("unknown database " ++ s)
  | none => pure (false, n)

/-- The rest of `CREATE [TEMP] TABLE` after `TABLE`. -/
def createTable (temp : Bool) : Parse Statement := do
  let ine ← ifNotExists
  let start ← get
  let (inTemp, n) ← objectName
  let temp := temp || inTemp
  if ← keyword "AS" then
    let q ← anyQuery
    pure (.createTableAs temp ine n q)
  else
    expectOp "("
    let d ← definitions ((← get).length + 1) {}
    expectOp ")"
    let shape ← if ← atEnd then pure d.shape else tableOptions ((← get).length + 1) d.shape
    let rest ← get
    let text := "CREATE TABLE " ++ spanText (start.take (start.length - rest.length))
    pure (.createTable temp ine n d.columns shape text)

/-- The rest of `CREATE [UNIQUE] INDEX` after `INDEX`. -/
def createIndex (unique : Bool) : Parse Statement := do
  let ine ← ifNotExists
  let start ← get
  let (_, n) ← objectName
  expectKeyword "ON"
  let t ← name
  let terms ← bracketed indexTerm
  let filter ← if ← keyword "WHERE" then some <$> anyExpr else pure none
  let rest ← get
  let text := "CREATE " ++ (if unique then "UNIQUE " else "") ++ "INDEX " ++
    spanText (start.take (start.length - rest.length))
  pure (.createIndex unique ine n t terms filter text)

/-- The rest of `CREATE [TEMP] VIEW` after `VIEW`. -/
def createView (temp : Bool) : Parse Statement := do
  let ine ← ifNotExists
  let start ← get
  let (inTemp, n) ← objectName
  let cols ← if ← atOp "(" then some <$> bracketed name else pure none
  expectKeyword "AS"
  let q ← anyQuery
  let rest ← get
  let text := "CREATE VIEW " ++ spanText (start.take (start.length - rest.length))
  pure (.createView (temp || inTemp) ine n cols q text)

/-- The columns named by `SET`: one name, or names in brackets. -/
def setTargets : Parse (List String) := do
  if ← atOp "(" then bracketed name else pure [← name]

/-- The assignments of `SET`. -/
def assignments : Parse (List (List String × Expr)) := do
  commaList (do
    let ns ← setTargets
    expectOp "="
    let e ← anyExpr
    pure (ns, e)) ((← get).length + 1) []

/-- An optional `RETURNING` list. -/
def returning : Parse (List ResultColumn) := do
  if ← keyword "RETURNING" then resultColumns (← fuelLeft) else pure []

/-- The upserts of an insertion: `ON CONFLICT [(terms) [WHERE …]] DO NOTHING | DO UPDATE SET …
[WHERE …]`, each but the last with a target. -/
def upserts : Nat → List Upsert → Parse (List Upsert)
  | 0, acc => pure acc.reverse
  | fuel + 1, acc => do
    if ← atKeyword "ON" then
      advance
      expectKeyword "CONFLICT"
      let target ← if ← atOp "(" then
          let terms ← bracketed indexTerm
          let cond ← if ← keyword "WHERE" then some <$> anyExpr else pure none
          pure (some (terms, cond))
        else pure none
      expectKeyword "DO"
      let update ← if ← keyword "NOTHING" then pure none
        else
          expectKeyword "UPDATE"
          expectKeyword "SET"
          let sets ← assignments
          let cond ← if ← keyword "WHERE" then some <$> anyExpr else pure none
          pure (some (sets, cond))
      if target.isNone && (← atKeyword "ON") then
        throw "ON CONFLICT clause does not match any PRIMARY KEY or UNIQUE constraint"
      upserts fuel ({ target, update } :: acc)
    else pure acc.reverse

/-- A table name with an optional alias, as `INSERT`, `UPDATE` and `DELETE` name it. -/
def targetTable : Parse (String × Option String) := do
  let (_, t) ← objectName
  let a ← if ← keyword "AS" then some <$> name else pure none
  pure (t, a)

/-- `INDEXED BY name` or `NOT INDEXED`, which are read and dropped. -/
def indexedBy : Parse Unit := do
  if ← keyword "INDEXED" then
    expectKeyword "BY"
    let _ ← name
  else if (← atKeyword "NOT") && (← secondIsKeyword "INDEXED") then
    advance
    advance

/-- The rest of an insertion after `INSERT [OR rule]` or `REPLACE`. -/
def insertInto (ctes : List Cte) (conflict : Option Conflict) : Parse Statement := do
  expectKeyword "INTO"
  let (t, a) ← targetTable
  let cols ← if ← atOp "(" then some <$> bracketed name else pure none
  if ← keyword "DEFAULT" then
    expectKeyword "VALUES"
    let ret ← returning
    pure (.insert ctes conflict t a cols .defaults [] ret)
  else
    let q ← anyQuery
    let ups ← upserts ((← get).length + 1) []
    let ret ← returning
    pure (.insert ctes conflict t a cols (.query q) ups ret)

/-- The conflict rule after `OR`, if one is given. -/
def orConflict : Parse (Option Conflict) := do
  if ← keyword "OR" then some <$> conflictWord else pure none

/-- An insertion, update or deletion, with the common table expressions before it. -/
def change (ctes : List Cte) : Parse Statement := do
  if ← keyword "INSERT" then insertInto ctes (← orConflict)
  else if ← keyword "REPLACE" then insertInto ctes (some .replace)
  else if ← keyword "UPDATE" then
    let c ← orConflict
    let (t, a) ← targetTable
    indexedBy
    expectKeyword "SET"
    let sets ← assignments
    let src ← if ← keyword "FROM" then some <$> source (← fuelLeft) else pure none
    let filter ← if ← keyword "WHERE" then some <$> anyExpr else pure none
    let ret ← returning
    pure (.update ctes c t a sets src filter [] none none ret)
  else if ← keyword "DELETE" then
    expectKeyword "FROM"
    let (t, a) ← targetTable
    indexedBy
    let filter ← if ← keyword "WHERE" then some <$> anyExpr else pure none
    let ret ← returning
    pure (.delete ctes t a filter [] none none ret)
  else syntaxError

/-- The body of a trigger: statements each ended by `;`, up to `END`. -/
def triggerBody : Nat → List Statement → Parse (List Statement)
  | 0, acc => pure acc.reverse
  | fuel + 1, acc => do
    if ← keyword "END" then
      if acc.isEmpty then syntaxError
      pure acc.reverse
    else
      let s ← if (← atKeyword "SELECT") || (← atKeyword "VALUES") || (← atKeyword "WITH") then
          .query <$> anyQuery
        else if (← atKeyword "INSERT") || (← atKeyword "REPLACE") || (← atKeyword "UPDATE") ||
            (← atKeyword "DELETE") then
          change []
        else syntaxError
      expectOp ";"
      triggerBody fuel (s :: acc)

/-- The rest of `CREATE [TEMP] TRIGGER` after `TRIGGER`. -/
def createTrigger (temp : Bool) : Parse Statement := do
  let ine ← ifNotExists
  let start ← get
  let (inTemp, n) ← objectName
  let timing ← if ← keyword "BEFORE" then pure Timing.before
    else if ← keyword "AFTER" then pure Timing.after
    else if ← keyword "INSTEAD" then do expectKeyword "OF"; pure Timing.insteadOf
    else pure Timing.before
  let event ← if ← keyword "INSERT" then pure Event.insert
    else if ← keyword "DELETE" then pure Event.delete
    else if ← keyword "UPDATE" then
      if ← keyword "OF" then pure (Event.update (← commaList name ((← get).length + 1) []))
      else pure (Event.update [])
    else syntaxError
  expectKeyword "ON"
  let t ← name
  if ← keyword "FOR" then
    expectKeyword "EACH"
    expectKeyword "ROW"
  let whenever ← if ← keyword "WHEN" then some <$> anyExpr else pure none
  expectKeyword "BEGIN"
  let body ← triggerBody ((← get).length + 1) []
  let rest ← get
  let text := "CREATE TRIGGER " ++ spanText (start.take (start.length - rest.length))
  pure (.createTrigger (temp || inTemp) ine n timing event t whenever body text)

/-- The rest of `CREATE` after the word. -/
def create : Parse Statement := do
  let temp ← (keyword "TEMP" <||> keyword "TEMPORARY")
  if ← keyword "TABLE" then createTable temp
  else if ← keyword "VIEW" then createView temp
  else if ← keyword "TRIGGER" then createTrigger temp
  else if temp then syntaxError
  else if ← keyword "UNIQUE" then
    expectKeyword "INDEX"
    createIndex true
  else if ← keyword "INDEX" then createIndex false
  else if ← keyword "VIRTUAL" then
    expectKeyword "TABLE"
    let _ ← ifNotExists
    let _ ← objectName
    expectKeyword "USING"
    let m ← name
    throw ("no such module: " ++ m)
  else syntaxError

/-- The rest of `DROP` after the word. -/
def drop : Parse Statement := do
  let kind ← if ← keyword "TABLE" then pure ObjectKind.table
    else if ← keyword "INDEX" then pure ObjectKind.index
    else if ← keyword "VIEW" then pure ObjectKind.view
    else if ← keyword "TRIGGER" then pure ObjectKind.trigger
    else syntaxError
  let ifExists ← if ← keyword "IF" then do expectKeyword "EXISTS"; pure true else pure false
  let (_, n) ← objectName
  pure (.drop kind ifExists n)

/-- The rest of `ALTER TABLE` after the words. -/
def alter : Parse Statement := do
  let (_, t) ← objectName
  if ← keyword "ADD" then
    let _ ← keyword "COLUMN"
    pure (.alterTable t (.addColumn (← columnDef)))
  else if ← keyword "RENAME" then
    if ← keyword "TO" then pure (.alterTable t (.renameTo (← name)))
    else
      let _ ← keyword "COLUMN"
      let (old, written) ← nameWritten
      expectKeyword "TO"
      let new ← name
      pure (.alterTable t (.renameColumn old written new))
  else if ← keyword "DROP" then
    let _ ← keyword "COLUMN"
    let (n, written) ← nameWritten
    pure (.alterTable t (.dropColumn n written))
  else syntaxError

/-- A value of `PRAGMA`: a name, a keyword, or a signed number. -/
def pragmaValue : Parse Unit := do
  let _ ← op "+" <||> op "-"
  match ← peek with
  | some (.num _) | some (.str _) | some (.quoted _ _) | some (.word _) => advance
  | _ => syntaxError

/-- One statement. -/
def statement : Nat → Parse Statement
  | 0 => syntaxError
  | fuel + 1 => do
    match ← peek with
    | some (.word w) =>
      match upper w with
      | "SELECT" | "VALUES" => .query <$> anyQuery
      | "WITH" =>
        let saved ← get
        advance
        let _ ← keyword "RECURSIVE"
        let ctes ← cteList (← fuelLeft)
        if (← atKeyword "INSERT") || (← atKeyword "REPLACE") || (← atKeyword "UPDATE") ||
            (← atKeyword "DELETE") then
          change ctes
        else
          set saved
          .query <$> anyQuery
      | "INSERT" | "REPLACE" | "UPDATE" | "DELETE" => change []
      | "CREATE" => advance; create
      | "DROP" => advance; drop
      | "ALTER" =>
        advance
        expectKeyword "TABLE"
        alter
      | "BEGIN" =>
        advance
        let _ ← keyword "DEFERRED" <||> keyword "IMMEDIATE" <||> keyword "EXCLUSIVE"
        if ← keyword "TRANSACTION" then
          if !(← atEnd) then let _ ← name
        pure .begin
      | "COMMIT" | "END" =>
        advance
        if ← keyword "TRANSACTION" then
          if !(← atEnd) then let _ ← name
        pure .commit
      | "ROLLBACK" =>
        advance
        if ← keyword "TRANSACTION" then
          if !(← atEnd) && !(← atKeyword "TO") then let _ ← name
        if ← keyword "TO" then
          let _ ← keyword "SAVEPOINT"
          pure (.rollback (some (← name)))
        else pure (.rollback none)
      | "SAVEPOINT" => advance; pure (.savepoint (← name))
      | "RELEASE" =>
        advance
        let _ ← keyword "SAVEPOINT"
        pure (.release (← name))
      | "PRAGMA" =>
        advance
        let _ ← qualifiedName
        if ← op "=" then pragmaValue
        else if ← op "(" then
          pragmaValue
          expectOp ")"
        pure .nothing
      | "VACUUM" =>
        advance
        if !(← atEnd) && !(← atKeyword "INTO") then let _ ← name
        if ← keyword "INTO" then let _ ← anyExpr
        pure .vacuum
      | "ANALYZE" | "REINDEX" =>
        advance
        if !(← atEnd) then let _ ← qualifiedName
        pure .nothing
      | "ATTACH" =>
        advance
        let _ ← keyword "DATABASE"
        let _ ← anyExpr
        expectKeyword "AS"
        let _ ← anyExpr
        if ← keyword "KEY" then let _ ← anyExpr
        pure .nothing
      | "DETACH" =>
        advance
        let _ ← keyword "DATABASE"
        let _ ← anyExpr
        pure .nothing
      | "EXPLAIN" =>
        advance
        if ← keyword "QUERY" then expectKeyword "PLAN"
        pure (.explain (← statement fuel))
      | _ => syntaxError
    | _ => syntaxError

end Parse

/-- A statement read from text with its parameter count. -/
structure Prepared where
  statement : Statement
  parameters : Nat
  deriving Inhabited

/-- The first statement of a token list and the tokens after it: empty statements are
skipped, and `none` means no statement is left. A statement ends at `;` or at the end. -/
def nextStatement (ts : List Lexeme) : Except String (Option Prepared × List Lexeme) :=
  let ts := ts.dropWhile fun l => l.token == .op ";"
  if ts.isEmpty then .ok (none, [])
  else
    let run : Parse Statement := do
      let s ← Parse.statement 4
      match ← Parse.peek with
      | none => pure s
      | some (.op ";") => Parse.advance; pure s
      | some _ => Parse.syntaxError
    match run.run ts with
    | .ok (s, rest) =>
      .ok (some ⟨s, Parse.parameterCount (ts.take (ts.length - rest.length))⟩, rest)
    | .error m => .error m

end Sql

end TelemetryBridge
