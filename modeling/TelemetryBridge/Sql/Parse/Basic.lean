import TelemetryBridge.Sql.Lex
import TelemetryBridge.Decimal.Reader

/-!
# Reading tokens

The parser reads the tokens of `Sql.Lex` from the front. A statement that cannot be read fails
with `near "T": syntax error`, naming the token `T` that cannot continue it, or with
`incomplete input` when the text ends first; an `illegal` token fails with
`unrecognized token: "T"` when the parser reaches it.

Keywords are bare words read without regard to ASCII case. The *reserved* keywords never stand
for a name; the *join* keywords (`LEFT`, `CROSS`, …) name columns and tables but are no alias
or type word; every other keyword is a name wherever its keyword meaning cannot continue the
statement.

Main definitions: `Sql.Parse`, `Sql.Parse.name`, `Sql.Parse.numberValue`.
-/

namespace TelemetryBridge

namespace Sql

/-- The parser: the tokens still to read, or the message of the failure. -/
abbrev Parse := StateT (List Lexeme) (Except String)

namespace Parse

/-- Keywords that never stand for a name. -/
def reserved : List String :=
  ["ADD", "ALL", "ALTER", "AND", "AS", "AUTOINCREMENT", "BETWEEN", "CASE", "CHECK", "COLLATE",
    "COMMIT", "CONSTRAINT", "CREATE", "DEFAULT", "DEFERRABLE", "DELETE", "DISTINCT", "DROP",
    "ELSE", "ESCAPE", "EXCEPT", "EXISTS", "FOREIGN", "FROM", "GROUP", "HAVING", "IN",
    "INDEX", "INDEXED", "INSERT", "INTERSECT", "INTO", "IS", "ISNULL", "JOIN", "LIMIT", "NOT",
    "NOTHING", "NOTNULL", "NULL", "ON", "OR", "ORDER", "PRIMARY", "REFERENCES",
    "RETURNING", "SELECT", "SET", "TABLE", "THEN", "TO", "TRANSACTION", "UNION", "UNIQUE",
    "UPDATE", "USING", "VALUES", "WHEN", "WHERE"]

/-- The join keywords. -/
def joinWords : List String := ["CROSS", "FULL", "INNER", "LEFT", "NATURAL", "OUTER", "RIGHT"]

/-- ASCII upper case of a word. -/
def upper (w : String) : String := nameKey w

/-- Whether a word is a reserved keyword. -/
def isReserved (w : String) : Bool := reserved.contains (upper w)

/-- Whether a word is a join keyword. -/
def isJoinWord (w : String) : Bool := joinWords.contains (upper w)

/-- The failure for the token that cannot continue the statement. -/
def syntaxError {α : Type} : Parse α := do
  match ← get with
  | [] => throw "incomplete input"
  | l :: _ =>
    if l.token == .illegal then throw ("unrecognized token: \"" ++ l.source ++ "\"")
    else throw ("near \"" ++ l.source ++ "\": syntax error")

/-- The next token, not read yet. -/
def peek : Parse (Option Token) := do
  match ← get with
  | [] => pure none
  | l :: _ =>
    if l.token == .illegal then throw ("unrecognized token: \"" ++ l.source ++ "\"")
    else pure (some l.token)

/-- The token after the next one. -/
def peekSecond : Parse (Option Token) := do
  match ← get with
  | _ :: l :: _ => pure (some l.token)
  | _ => pure none

/-- Reads one token. -/
def advance : Parse Unit := modify List.tail

/-- Whether the next token is the keyword `k`. -/
def atKeyword (k : String) : Parse Bool := do
  match ← peek with
  | some (.word w) => pure (upper w == k)
  | _ => pure false

/-- Reads the keyword `k` if it comes next. -/
def keyword (k : String) : Parse Bool := do
  if ← atKeyword k then advance; pure true else pure false

/-- Reads the keyword `k`, which must come next. -/
def expectKeyword (k : String) : Parse Unit := do
  if ← keyword k then pure () else syntaxError

/-- Whether the next token is the operator `o`. -/
def atOp (o : String) : Parse Bool := do
  match ← peek with
  | some (.op p) => pure (p == o)
  | _ => pure false

/-- Reads the operator `o` if it comes next. -/
def op (o : String) : Parse Bool := do
  if ← atOp o then advance; pure true else pure false

/-- Reads the operator `o`, which must come next. -/
def expectOp (o : String) : Parse Unit := do
  if ← op o then pure () else syntaxError

/-- Reads a name: a word that is not reserved, a quoted name or a text literal. -/
def name : Parse String := do
  match ← peek with
  | some (.word w) => if isReserved w then syntaxError else advance; pure w
  | some (.quoted t _) => advance; pure t
  | some (.str t) => advance; pure t
  | _ => syntaxError

/-- Reads a name with the text it is written as. -/
def nameWritten : Parse (String × String) := do
  let written := match ← get with
    | l :: _ => l.source
    | [] => ""
  let n ← name
  pure (n, written)

/-- Whether the next token can be an alias written without `AS`: a word that is neither
reserved nor a join keyword, a quoted name or a text literal. `WINDOW` is no alias, as a
`WINDOW` clause may follow where an alias may. -/
def atAlias : Parse Bool := do
  match ← peek with
  | some (.word w) => pure (!isReserved w && !isJoinWord w && upper w != "WINDOW")
  | some (.quoted _ _) | some (.str _) => pure true
  | _ => pure false

/-- An optional alias: `AS name`, or a bare alias. -/
def asName : Parse (Option String) := do
  if ← keyword "AS" then some <$> name
  else if ← atAlias then some <$> name
  else pure none

/-- Reads a table name, with an optional schema name before a dot: the schema and the name. -/
def qualifiedName : Parse (Option String × String) := do
  let n ← name
  if ← op "." then pure (some n, ← name) else pure (none, n)

/-- Reads a table name, with an optional schema name before a dot (which is dropped). -/
def tableName : Parse String := do
  pure (← qualifiedName).2

/-- Removes the digit separators `_` of a number literal. A separator must stand between two
digits, hexadecimal ones in a hexadecimal literal. The literal is compacted in place as the
separators are removed, so the failure for a misplaced separator quotes the literal as it stands
at the last misplaced one: the characters kept so far, then the rest of the literal as written
from that length on. -/
def withoutMarks (t : String) : Except String String :=
  let cs := t.toList
  let hex := match cs with
    | '0' :: x :: _ => x == 'x' || x == 'X'
    | _ => false
  let digit := if hex then Lex.isHex else Lex.isDigit
  let (kept, fault) := (List.range cs.length).foldl (fun (acc : List Char × Option String) i =>
    let c := cs.getD i ' '
    if c != '_' then (acc.1 ++ [c], acc.2)
    else if i > 0 && digit (cs.getD (i - 1) ' ') && digit (cs.getD (i + 1) ' ') then acc
    else (acc.1, some ("unrecognized token: \"" ++ String.ofList (acc.1 ++ cs.drop acc.1.length) ++
      "\""))) ([], none)
  match fault with
  | some m => .error m
  | none => .ok (String.ofList kept)

/-- The expression of a number literal: an integer within 64 bits, a wide integer, or a double.
A hexadecimal literal takes its 64 bits as a two's complement integer and may have no more;
`negated` says a minus sign stands before it, for the failure's text. -/
def numberValue (written : String) (negated : Bool) : Except String Expr := do
  let t ← withoutMarks written
  let cs := t.toList
  match cs with
  | '0' :: x :: hs =>
    if x == 'x' || x == 'X' then
      let n : Nat := hs.foldl (fun acc c => 16 * acc + Lex.hexValue c) 0
      if n ≥ 2 ^ 64 then .error ("hex literal too big: " ++ (if negated then "-" else "") ++ t)
      else .ok (.lit (.integer (if n ≥ 2 ^ 63 then (n : Int) - 2 ^ 64 else n)))
    else decimal cs
  | _ => decimal cs
where
  decimal (cs : List Char) : Except String Expr :=
    if cs.all Lex.isDigit then
      let n : Nat := digitsNat cs
      if n < 2 ^ 63 then .ok (.lit (.integer n)) else .ok (.wide n)
    else .ok (.lit (.real (NumberText.read (String.ofList cs)).value))

/-- A list of at least one item separated by commas; `fuel` bounds its length. -/
def commaList {α : Type} (item : Parse α) : Nat → List α → Parse (List α)
  | 0, acc => pure acc.reverse
  | fuel + 1, acc => do
    let x ← item
    if ← op "," then commaList item fuel (x :: acc) else pure (x :: acc).reverse

/-- Items in brackets separated by commas. -/
def bracketed {α : Type} (item : Parse α) : Parse (List α) := do
  expectOp "("
  let xs ← commaList item ((← get).length + 1) []
  expectOp ")"
  pure xs

/-- The text of what a parser reads, as written. -/
def spanOf {α : Type} (p : Parse α) : Parse (α × String) := do
  let before ← get
  let x ← p
  let after ← get
  pure (x, spanText (before.take (before.length - after.length)))

/-- The number a numbered parameter `?N` names, which must be from 1 to 32766. -/
def parameterNumber (digits : List Char) : Except String Nat :=
  let n := digitsNat digits
  if 1 ≤ n ∧ n ≤ 32766 then .ok n else .error "variable number must be between ?1 and ?32766"

/-- The parameter count of a statement's tokens: the largest number its parameters use. -/
def parameterCount (ts : List Lexeme) : Nat :=
  (ts.foldl (fun (acc : Nat × List String) l =>
    match l.token with
    | .variable t =>
      match t.toList with
      | ['?'] => (acc.1 + 1, acc.2)
      | '?' :: ds => (max acc.1 ((parameterNumber ds).toOption.getD 0), acc.2)
      | _ => if acc.2.contains t then acc else (acc.1 + 1, t :: acc.2)
    | _ => acc) (0, [])).1

/-- A conflict rule word: `ROLLBACK`, `ABORT`, `FAIL`, `IGNORE` or `REPLACE`. -/
def conflictWord : Parse Conflict := do
  match ← peek with
  | some (.word w) =>
    match upper w with
    | "ROLLBACK" => advance; pure .rollback
    | "ABORT" => advance; pure .abort
    | "FAIL" => advance; pure .fail
    | "IGNORE" => advance; pure .ignore
    | "REPLACE" => advance; pure .replace
    | _ => syntaxError
  | _ => syntaxError

end Parse

end Sql

end TelemetryBridge
