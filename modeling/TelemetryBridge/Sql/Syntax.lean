import TelemetryBridge.Sql.Value

/-!
# Statements of the embedded database

The backup store is a database file holding tables of rows, filled and changed by statements
of an SQL dialect. This module holds what a statement is once read:

* *expressions*: literals, column names (optionally qualified by a table), parameters, unary
  and binary operators, `IS`, `BETWEEN`, `IN` (a list, a query or a table), pattern matching
  (`LIKE`, `GLOB`, `REGEXP`, `MATCH`), `COLLATE`, `CAST`, function calls (with `DISTINCT`, `*`
  and `FILTER`), `CASE`, `EXISTS`, scalar subqueries, row values and `RAISE`;
* *queries*: `SELECT` and `VALUES` cores joined by `UNION [ALL]`, `INTERSECT` and `EXCEPT`,
  with common table expressions (`WITH [RECURSIVE]`), `ORDER BY`, `LIMIT` and `OFFSET`; a core
  reads from tables, views, subqueries and joins, filters, groups and aggregates;
* *statements*: queries, `CREATE` and `DROP` of tables, indexes, views and triggers, `INSERT`
  (with conflict rules and upserts), `UPDATE`, `DELETE`, `ALTER TABLE`, transactions and
  savepoints, and the maintenance commands that change nothing here.

Main definitions: `Sql.Token`, `Sql.Expr`, `Sql.Query`, `Sql.Statement`.
-/

namespace TelemetryBridge

namespace Sql

/-- A token of statement text. -/
inductive Token where
  /-- A bare word: a keyword or a name. -/
  | word (text : String)
  /-- A name written in double quotes (`dq`), brackets or backquotes. -/
  | quoted (text : String) (dq : Bool)
  /-- A text literal in single quotes. -/
  | str (text : String)
  /-- A blob literal `X'…'`. -/
  | blob (b : Bytes)
  /-- A number literal as written, `_` between digits included. -/
  | num (text : String)
  /-- A parameter as written: `?`, `?N`, or a name after `:`, `@`, `$` or `#`. -/
  | variable (text : String)
  /-- An operator or punctuation mark. -/
  | op (text : String)
  /-- Text that is no token. -/
  | illegal
  deriving Repr, BEq, Inhabited

/-- A token with the text it was read from and the blanks and comments before it, from which
the text of a stretch of tokens is rebuilt. -/
structure Lexeme where
  token : Token
  source : String
  gap : String := ""
  deriving Repr, Inhabited

/-- The text of a stretch of tokens as written, without the gap before the first. -/
def spanText : List Lexeme → String
  | [] => ""
  | l :: rest => rest.foldl (fun acc m => acc ++ m.gap ++ m.source) l.source

/-- Unary operators. -/
inductive UnaryOp where
  | negate
  | plus
  | bitNot
  | not
  deriving Repr, DecidableEq, Inhabited

/-- Binary operators. -/
inductive BinOp where
  | add
  | sub
  | mul
  | div
  | rem
  | concat
  | bitAnd
  | bitOr
  | shiftLeft
  | shiftRight
  | eq
  | ne
  | lt
  | le
  | gt
  | ge
  | is
  | isNot
  | and
  | or
  /-- `->`: the JSON at a path, as JSON. -/
  | extract
  /-- `->>`: the JSON at a path, as a value. -/
  | extractValue
  deriving Repr, DecidableEq, Inhabited

/-- The pattern operators. -/
inductive Matcher where
  | like
  | glob
  | regexp
  | match
  deriving Repr, DecidableEq, Inhabited

/-- What `RAISE` does. -/
inductive RaiseKind where
  | ignore
  | rollback
  | abort
  | fail
  deriving Repr, DecidableEq, Inhabited

/-- How two sources of rows are joined. -/
inductive JoinKind where
  | inner
  | left
  | right
  | full
  | cross
  deriving Repr, DecidableEq, Inhabited

/-- How two queries are combined. -/
inductive SetOp where
  | union
  | unionAll
  | intersect
  | except
  deriving Repr, DecidableEq, Inhabited

/-- The unit in which a window frame counts its bounds: rows, values of the ordering term, or
groups of peers. -/
inductive FrameUnit where
  | rows
  | range
  | groups
  deriving Repr, DecidableEq, Inhabited

/-- The rows a window frame leaves out of itself. -/
inductive FrameExclude where
  | noOthers
  | currentRow
  | group
  | ties
  deriving Repr, DecidableEq, Inhabited

mutual

/-- An expression. -/
inductive Expr where
  | lit (v : Value)
  /-- An integer literal beyond the 64-bit range, by its value: a double, except that `2^63`
  under a minus sign is the smallest integer. -/
  | wide (n : Nat)
  /-- A column name, qualified by a table or not; `dq` says it was written in double quotes,
  which makes an unknown name a text. -/
  | column (table : Option String) (name : String) (dq : Bool)
  /-- A parameter; no value is ever bound to it. -/
  | param
  | unary (op : UnaryOp) (e : Expr)
  | binary (op : BinOp) (a b : Expr)
  /-- `e ISNULL`, or `e NOTNULL` when `negated`. -/
  | isNull (e : Expr) (negated : Bool)
  | between (e low high : Expr) (negated : Bool)
  | inList (e : Expr) (items : List Expr) (negated : Bool)
  | inQuery (e : Expr) (q : Query) (negated : Bool)
  | pattern (m : Matcher) (e pat : Expr) (escape : Option Expr) (negated : Bool)
  | collate (e : Expr) (name : String)
  | cast (e : Expr) (type : String)
  /-- A function call by name (`written` as in the text), with `DISTINCT`, its arguments, `*`
  in place of arguments, and a `FILTER` condition. -/
  | call (name : String) (written : String) (distinct : Bool) (args : List Expr) (star : Bool)
      (filter : Option Expr)
  /-- `CASE [base] WHEN … THEN … [ELSE …] END`. -/
  | cases (base : Option Expr) (arms : List (Expr × Expr)) (otherwise : Option Expr)
  | exists (q : Query)
  | subquery (q : Query)
  | raise (kind : RaiseKind) (message : String)
  | vector (items : List Expr)
  /-- A call over a window: of a window function, or of an aggregate whose rows are those of
  the window's frame. -/
  | window (name : String) (written : String) (args : List Expr) (star : Bool)
      (filter : Option Expr) (win : Window)

/-- A bound of a window frame; `unbounded` is `UNBOUNDED PRECEDING` as a start and `UNBOUNDED
FOLLOWING` as an end. -/
inductive FrameBound where
  | unbounded
  | preceding (offset : Expr)
  | current
  | following (offset : Expr)

/-- The frame of a window as written: its unit, its bounds and what it leaves out. -/
inductive WindowFrame where
  | frame (unit : FrameUnit) (start finish : FrameBound) (exclude : FrameExclude)

/-- A window as written after `OVER` or in a `WINDOW` clause: the name of a window of the
`WINDOW` clause, or a definition, which may build on a named window. -/
inductive Window where
  | named (name : String)
  | spec (base : Option String) (partition : List Expr) (order : List OrderTerm)
      (frame : Option WindowFrame)

/-- A source of rows in a `FROM` clause. -/
inductive Source where
  | table (name : String) (asName : Option String)
  | query (q : Query) (asName : Option String)
  /-- A table-valued function called with arguments. -/
  | function (name : String) (args : List Expr) (asName : Option String)
  | join (left : Source) (kind : JoinKind) (natural : Bool) (right : Source) (on : Option Expr)
      (columns : List String)

/-- A column of a query's result. -/
inductive ResultColumn where
  /-- `*`. -/
  | all
  /-- `t.*`. -/
  | allOf (table : String)
  /-- An expression with its alias and its text. -/
  | expr (e : Expr) (asName : Option String) (text : String)

/-- One `SELECT` or `VALUES` of a query. -/
inductive Select where
  | select (distinct : Bool) (columns : List ResultColumn) (source : Option Source)
      (filter : Option Expr) (groupBy : List Expr) (having : Option Expr)
      (windows : List (String × Window))
  | values (rows : List (List Expr))

/-- A term of `ORDER BY`: an expression, descending or not, and where nulls go (`some true`
for first). -/
inductive OrderTerm where
  | term (e : Expr) (descending : Bool) (nullsFirst : Option Bool)

/-- A common table expression: a name, its column names, and its query. -/
inductive Cte where
  | cte (name : String) (columns : Option (List String)) (q : Query)

/-- A query: its common table expressions, whether they may refer to themselves, its first
core and the cores combined with it, and the ordering and limits of the result. -/
inductive Query where
  | query (ctes : List Cte) (recursive : Bool) (first : Select) (rest : List (SetOp × Select))
      (orderBy : List OrderTerm) (limit : Option Expr) (offset : Option Expr)

end

instance : Inhabited Expr := ⟨.lit .null⟩

instance : Inhabited Select := ⟨.values []⟩

instance : Inhabited Query := ⟨.query [] false default [] [] none none⟩

instance : Inhabited Source := ⟨.table "" none⟩

/-- What an insertion or update does with a row that breaks a rule. -/
inductive Conflict where
  | rollback
  | abort
  | fail
  | ignore
  | replace
  deriving Repr, DecidableEq, Inhabited

/-- A column of a table definition as written. -/
structure ColumnDef where
  name : String
  /-- The declared type as the catalogue keeps it: the text of the type, unquoted when it
  starts with a quote; a standard type (`INT`, `INTEGER`, `REAL`, `TEXT`, `BLOB`, `ANY`) in
  capitals. -/
  declared : String := ""
  /-- Whether a type was written at all. -/
  typed : Bool := false
  primaryKey : Bool := false
  /-- The primary key was declared in descending order. -/
  descending : Bool := false
  autoincrement : Bool := false
  primaryConflict : Conflict := .abort
  notNull : Bool := false
  notNullConflict : Conflict := .abort
  unique : Bool := false
  uniqueConflict : Conflict := .abort
  default : Option Expr := none
  collation : Option String := none
  /-- Checks, each with its name or text. -/
  checks : List (String × Expr) := []
  /-- A generated column's expression, and whether it is stored. -/
  generated : Option (Expr × Bool) := none
  deriving Inhabited

/-- A column of a key, by name, with a collation and an order. -/
structure KeyColumn where
  name : String
  collation : Option String := none
  descending : Bool := false
  deriving Inhabited

/-- What a table definition says beside its columns. -/
structure TableShape where
  primary : Option (List KeyColumn) := none
  /-- The table-level primary key asks for `AUTOINCREMENT`. -/
  autoincrement : Bool := false
  primaryConflict : Conflict := .abort
  uniques : List (List KeyColumn × Conflict) := []
  checks : List (String × Expr) := []
  withoutRowid : Bool := false
  strict : Bool := false
  deriving Inhabited

/-- A change of a table's shape by `ALTER TABLE`. -/
inductive Alteration where
  | addColumn (c : ColumnDef)
  | renameTo (name : String)
  /-- Renames a column; `written` is the old name as the statement writes it. -/
  | renameColumn (old written new : String)
  /-- Drops a column; `written` is its name as the statement writes it. -/
  | dropColumn (name written : String)
  deriving Inhabited

/-- A term of an index: a column or an expression, with a collation and an order. -/
structure IndexTerm where
  expr : Expr
  collation : Option String := none
  descending : Bool := false
  deriving Inhabited

/-- What an upsert does with a row whose insertion breaks a uniqueness rule: nothing, or an
update of the row in the way. -/
structure Upsert where
  /-- The key whose breach it handles (any key when absent), with a condition on the index. -/
  target : Option (List IndexTerm × Option Expr) := none
  /-- The assignments and their condition; none for `DO NOTHING`. -/
  update : Option (List (List String × Expr) × Option Expr) := none
  deriving Inhabited

/-- Where the rows of an insertion come from. -/
inductive Rows where
  | query (q : Query)
  | defaults
  deriving Inhabited

/-- When a trigger runs. -/
inductive Timing where
  | before
  | after
  | insteadOf
  deriving Repr, DecidableEq, Inhabited

/-- The change a trigger follows. -/
inductive Event where
  | insert
  | delete
  /-- An update, of the named columns only when some are named. -/
  | update (columns : List String)
  deriving Repr, DecidableEq, Inhabited

/-- The kinds of objects in the catalogue. -/
inductive ObjectKind where
  | table
  | index
  | view
  | trigger
  deriving Repr, DecidableEq, Inhabited

/-- A statement. -/
inductive Statement where
  | query (q : Query)
  | createTable (temp : Bool) (ifNotExists : Bool) (name : String) (columns : List ColumnDef)
      (shape : TableShape) (text : String)
  | createTableAs (temp : Bool) (ifNotExists : Bool) (name : String) (q : Query)
  | createIndex (unique : Bool) (ifNotExists : Bool) (name : String) (table : String)
      (terms : List IndexTerm) (filter : Option Expr) (text : String)
  | createView (temp : Bool) (ifNotExists : Bool) (name : String) (columns : Option (List String))
      (q : Query) (text : String)
  | createTrigger (temp : Bool) (ifNotExists : Bool) (name : String) (timing : Timing)
      (event : Event) (table : String) (whenever : Option Expr) (body : List Statement)
      (text : String)
  | drop (kind : ObjectKind) (ifExists : Bool) (name : String)
  | insert (ctes : List Cte) (conflict : Option Conflict) (table : String) (asName : Option String)
      (columns : Option (List String)) (rows : Rows) (upserts : List Upsert)
      (returning : List ResultColumn)
  | update (ctes : List Cte) (conflict : Option Conflict) (table : String) (asName : Option String)
      (sets : List (List String × Expr)) (source : Option Source) (filter : Option Expr)
      (orderBy : List OrderTerm) (limit : Option Expr) (offset : Option Expr)
      (returning : List ResultColumn)
  | delete (ctes : List Cte) (table : String) (asName : Option String) (filter : Option Expr)
      (orderBy : List OrderTerm) (limit : Option Expr) (offset : Option Expr)
      (returning : List ResultColumn)
  | alterTable (name : String) (change : Alteration)
  | begin
  | commit
  /-- `ROLLBACK`, to a savepoint when one is named. -/
  | rollback (savepoint : Option String)
  | savepoint (name : String)
  | release (name : String)
  /-- A statement that changes nothing here (`PRAGMA`, `VACUUM`, `ANALYZE`, `REINDEX`,
  `EXPLAIN`, …). -/
  | nothing
  | vacuum
  /-- `EXPLAIN`: the statement is prepared and not run. -/
  | explain (s : Statement)
  deriving Inhabited

end Sql

end TelemetryBridge
