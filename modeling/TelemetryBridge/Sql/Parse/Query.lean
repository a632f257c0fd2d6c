import TelemetryBridge.Sql.Parse.Basic

/-!
# Parsing expressions and queries

A recursive-descent parser. Expressions bind, from loosest to tightest:

1. `OR`;
2. `AND`;
3. `NOT` before an expression;
4. `= == != <> IS [NOT] [DISTINCT FROM]`, `[NOT] BETWEEN … AND …`, `[NOT] IN`,
   `[NOT] LIKE | GLOB | REGEXP | MATCH … [ESCAPE …]`, `ISNULL`, `NOTNULL`, `NOT NULL`;
5. `< <= > >=`;
6. `& | << >>`;
7. `+ -`;
8. `* / %`;
9. `|| -> ->>`;
10. `COLLATE` after an expression;
11. the signs `- + ~` before an expression.

All binary operators group to the left. The lower bound of `BETWEEN` reaches to its `AND`; its
upper bound, the pattern of `LIKE` and the escape stop at the operators of level 4.

A query is one or more `SELECT` or `VALUES` cores combined by `UNION [ALL]`, `INTERSECT` and
`EXCEPT`, after an optional `WITH` list, with `ORDER BY` and `LIMIT` for the whole. `LIMIT a, b`
means an offset of `a` and a limit of `b`.

The nesting of brackets is bounded by `fuel`, which the callers take from the number of tokens.

Main definitions: `Sql.Parse.expr`, `Sql.Parse.query`.
-/

namespace TelemetryBridge

namespace Sql

namespace Parse

/-- The failure when expressions nest past the parser's fuel. -/
def tooDeep : String := "parser stack overflow"

/-- The binary operator an operator token stands for at a binding level (`5` order, `6` bits,
`7` sums, `8` products, `9` joining texts). -/
def binaryAt (level : Nat) (t : Token) : Option BinOp :=
  match level, t with
  | 5, .op "<" => some .lt
  | 5, .op "<=" => some .le
  | 5, .op ">" => some .gt
  | 5, .op ">=" => some .ge
  | 6, .op "&" => some .bitAnd
  | 6, .op "|" => some .bitOr
  | 6, .op "<<" => some .shiftLeft
  | 6, .op ">>" => some .shiftRight
  | 7, .op "+" => some .add
  | 7, .op "-" => some .sub
  | 8, .op "*" => some .mul
  | 8, .op "/" => some .div
  | 8, .op "%" => some .rem
  | 9, .op "||" => some .concat
  | 9, .op "->" => some .extract
  | 9, .op "->>" => some .extractValue
  | _, _ => none

/-- The pattern operator a word stands for. -/
def matcherOf (w : String) : Option Matcher :=
  match upper w with
  | "LIKE" => some .like
  | "GLOB" => some .glob
  | "REGEXP" => some .regexp
  | "MATCH" => some .match
  | _ => none

/-- Whether a token starts a query. -/
def startsQuery : Option Token → Bool
  | some (.word w) => upper w == "SELECT" || upper w == "VALUES" || upper w == "WITH"
  | _ => false

/-- The words that may follow `NOT` as part of a level-4 operator. -/
def negatedOperators : List String := ["BETWEEN", "IN", "LIKE", "GLOB", "REGEXP", "MATCH", "NULL"]

/-- Reads the type words of a declared type or a `CAST`, with their size in brackets: the type
as written. -/
def typeText : Parse String := do
  let (_, text) ← spanOf do
    let mut go := true
    for _ in List.range ((← get).length + 1) do
      if go then
        match ← peek with
        | some (.word w) =>
          if isReserved w || isJoinWord w then go := false else advance
        | some (.quoted _ _) | some (.str _) => advance
        | _ => go := false
    if ← atOp "(" then
      advance
      let _ ← op "+" <||> op "-"
      match ← peek with
      | some (.num _) => advance
      | _ => syntaxError
      if ← op "," then
        let _ ← op "+" <||> op "-"
        match ← peek with
        | some (.num _) => advance
        | _ => syntaxError
      expectOp ")"
  pure text

/-- The flags of a join word: inner `1`, cross `2`, natural `4`, left `8`, right `16`, outer `32`,
and `64` for a word that is none of them. -/
def joinFlags (w : String) : Nat :=
  match upper w with
  | "NATURAL" => 4
  | "LEFT" => 40
  | "OUTER" => 32
  | "RIGHT" => 48
  | "FULL" => 56
  | "INNER" => 1
  | "CROSS" => 3
  | _ => 64

/-- Reads a join operator: a comma, or up to three join words and `JOIN`. The kind of the join
and whether it is natural, or none when no join follows. Words that make no join, such as
`INNER OUTER` or a bare `OUTER`, fail with `unknown join type`. -/
def joinOperator : Parse (Option (JoinKind × Bool)) := do
  if ← op "," then return some (.inner, false)
  if ← keyword "JOIN" then return some (.inner, false)
  match ← peek with
  | some (.word w) =>
    if !isJoinWord w then return none
    advance
    let mut words := [w]
    for _ in [0, 1] do
      if !(← atKeyword "JOIN") then
        words := words ++ [← name]
    expectKeyword "JOIN"
    let f := words.foldl (fun acc x => acc ||| joinFlags x) 0
    if f &&& 33 == 33 || f &&& 64 != 0 || f &&& 56 == 32 then
      throw ("unknown join type: " ++ " ".intercalate words)
    let kind : JoinKind :=
      if f &&& 24 == 24 then .full else if f &&& 8 != 0 then .left
      else if f &&& 16 != 0 then .right else if f &&& 2 != 0 then .cross else .inner
    return some (kind, f &&& 4 != 0)
  | _ => return none

/-- Whether an expression is constant as a frame offset must be: no column, parameter,
function call or subquery in it, `TRUE` and `FALSE` being constants. -/
def isFrameConstant : Nat → Expr → Bool
  | 0, _ => false
  | fuel + 1, e =>
    let all (xs : List Expr) : Bool := xs.all (isFrameConstant fuel)
    match e with
    | .lit _ | .wide _ => true
    | .column none n false => nameKey n == "TRUE" || nameKey n == "FALSE"
    | .unary _ a | .isNull a _ | .collate a _ | .cast a _ => all [a]
    | .binary _ a b => all [a, b]
    | .between a l h _ => all [a, l, h]
    | .inList a items _ => all (a :: items)
    | .pattern _ a p esc _ => all (a :: p :: esc.toList)
    | .cases b arms o => all (b.toList ++ arms.flatMap (fun (x, y) => [x, y]) ++ o.toList)
    | .vector items => all items
    | _ => false

/-- A frame offset as the frame takes it: an offset that is not constant counts as `NULL`. -/
def frameOffset (e : Expr) : Expr := if isFrameConstant 1000 e then e else .lit .null

mutual

/-- An expression. -/
def expr : Nat → Parse Expr
  | 0 => throw tooDeep
  | fuel + 1 => do
    let lhs ← andExpr fuel
    orRest fuel lhs

/-- The `OR`s after a first operand. -/
def orRest : Nat → Expr → Parse Expr
  | 0, _ => throw tooDeep
  | fuel + 1, lhs => do
    if ← keyword "OR" then orRest fuel (.binary .or lhs (← andExpr fuel)) else pure lhs

/-- An expression of the `AND` level. -/
def andExpr : Nat → Parse Expr
  | 0 => throw tooDeep
  | fuel + 1 => do
    let lhs ← notExpr fuel
    andRest fuel lhs

/-- The `AND`s after a first operand. -/
def andRest : Nat → Expr → Parse Expr
  | 0, _ => throw tooDeep
  | fuel + 1, lhs => do
    if ← keyword "AND" then andRest fuel (.binary .and lhs (← notExpr fuel)) else pure lhs

/-- An expression of the `NOT` level. -/
def notExpr : Nat → Parse Expr
  | 0 => throw tooDeep
  | fuel + 1 => do
    if ← keyword "NOT" then pure (.unary .not (← notExpr fuel))
    else
      let lhs ← level fuel 5
      equalityRest fuel lhs

/-- The operators of level 4 after a first operand. -/
def equalityRest : Nat → Expr → Parse Expr
  | 0, _ => throw tooDeep
  | fuel + 1, lhs => do
    match ← peek with
    | some (.op "=") | some (.op "==") =>
      advance; equalityRest fuel (.binary .eq lhs (← level fuel 5))
    | some (.op "!=") | some (.op "<>") =>
      advance; equalityRest fuel (.binary .ne lhs (← level fuel 5))
    | some (.word w) =>
      match upper w with
      | "IS" =>
        advance
        let negated ← keyword "NOT"
        let distinct ← keyword "DISTINCT"
        if distinct then expectKeyword "FROM"
        let rhs ← level fuel 5
        let isNot := negated != distinct
        equalityRest fuel (.binary (if isNot then .isNot else .is) lhs rhs)
      | "ISNULL" => advance; equalityRest fuel (.isNull lhs false)
      | "NOTNULL" => advance; equalityRest fuel (.isNull lhs true)
      | "NOT" =>
        match ← peekSecond with
        | some (.word w2) =>
          if negatedOperators.contains (upper w2) then
            advance
            equalityRest fuel (← operatorAfter fuel lhs true)
          else pure lhs
        | _ => pure lhs
      | u =>
        if u == "BETWEEN" || u == "IN" || (matcherOf u).isSome then
          equalityRest fuel (← operatorAfter fuel lhs false)
        else pure lhs
    | _ => pure lhs

/-- A level-4 operator that may follow `NOT`: `BETWEEN`, `IN`, a pattern operator, or `NULL`. -/
def operatorAfter : Nat → Expr → Bool → Parse Expr
  | 0, _, _ => throw tooDeep
  | fuel + 1, lhs, negated => do
    match ← peek with
    | some (.word w) =>
      match upper w with
      | "NULL" => advance; pure (.isNull lhs true)
      | "BETWEEN" =>
        advance
        let low ← notExpr fuel
        expectKeyword "AND"
        let high ← level fuel 5
        pure (.between lhs low high negated)
      | "IN" =>
        advance
        if ← op "(" then
          if ← op ")" then pure (.inList lhs [] negated)
          else if startsQuery (← peek) then
            let q ← query fuel
            expectOp ")"
            pure (.inQuery lhs q negated)
          else
            let items ← exprList fuel
            expectOp ")"
            pure (.inList lhs items negated)
        else
          let (_, t) ← qualifiedName
          let src ← if ← atOp "(" then do pure (Source.function t (← bracketedExprs fuel) none)
            else pure (Source.table t none)
          pure (.inQuery lhs (.query [] false (.select false [.all] (some src) none [] none [])
            [] [] none none) negated)
      | u =>
        match matcherOf u with
        | some m =>
          advance
          let pat ← level fuel 5
          let esc ← if ← keyword "ESCAPE" then some <$> level fuel 5 else pure none
          if m == .regexp || m == .match then
            let e := Expr.call u w false ([pat, lhs] ++ esc.toList) false none
            pure (if negated then .unary .not e else e)
          else pure (.pattern m lhs pat esc negated)
        | none => syntaxError
    | _ => syntaxError

/-- An expression of a binary level from order (`5`) to joining texts (`9`); level `10` is an
operand with its collations. -/
def level : Nat → Nat → Parse Expr
  | 0, _ => throw tooDeep
  | fuel + 1, l => do
    if l ≥ 10 then
      let e ← unary fuel
      collateRest fuel e
    else
      let lhs ← level fuel (l + 1)
      levelRest fuel l lhs

/-- The operators of one binary level after a first operand. -/
def levelRest : Nat → Nat → Expr → Parse Expr
  | 0, _, _ => throw tooDeep
  | fuel + 1, l, lhs => do
    match (← peek).bind (binaryAt l) with
    | some o =>
      advance
      let rhs ← level fuel (l + 1)
      levelRest fuel l (.binary o lhs rhs)
    | none => pure lhs

/-- `COLLATE` names after an operand. -/
def collateRest : Nat → Expr → Parse Expr
  | 0, _ => throw tooDeep
  | fuel + 1, e => do
    if ← keyword "COLLATE" then collateRest fuel (.collate e (← name)) else pure e

/-- An operand with the signs before it. -/
def unary : Nat → Parse Expr
  | 0 => throw tooDeep
  | fuel + 1 => do
    if ← op "-" then
      match ← peek with
      | some (.num t) =>
        match numberValue t true with
        | .error m => throw m
        | .ok _ => pure (.unary .negate (← unary fuel))
      | _ => pure (.unary .negate (← unary fuel))
    else if ← op "+" then pure (.unary .plus (← unary fuel))
    else if ← op "~" then pure (.unary .bitNot (← unary fuel))
    else primary fuel

/-- An operand: a literal, a name, a call, a bracketed expression or query, or a keyword form. -/
def primary : Nat → Parse Expr
  | 0 => throw tooDeep
  | fuel + 1 => do
    match ← peek with
    | some (.num t) =>
      advance
      match numberValue t false with
      | .ok e => pure e
      | .error m => throw m
    | some (.str s) => advance; pure (.lit (.text s))
    | some (.blob b) => advance; pure (.lit (.blob b))
    | some (.variable t) =>
      match t.toList with
      | '?' :: d :: ds =>
        match parameterNumber (d :: ds) with
        | .ok _ => advance; pure .param
        | .error m => throw m
      | '#' :: d :: _ => if Lex.isDigit d then syntaxError else advance; pure .param
      | _ => advance; pure .param
    | some (.op "(") =>
      advance
      if startsQuery (← peek) then
        let q ← query fuel
        expectOp ")"
        pure (.subquery q)
      else
        let e ← expr fuel
        if ← op "," then
          let rest ← exprList fuel
          expectOp ")"
          pure (.vector (e :: rest))
        else
          expectOp ")"
          pure e
    | some (.quoted t dq) =>
      advance
      nameForm fuel t dq
    | some (.word w) =>
      match upper w with
      | "NULL" => advance; pure (.lit .null)
      | "NOT" => advance; pure (.unary .not (← notExpr fuel))
      | "CASE" =>
        advance
        let base ← if ← atKeyword "WHEN" then pure none else some <$> expr fuel
        let arms ← caseArms fuel []
        let otherwise ← if ← keyword "ELSE" then some <$> expr fuel else pure none
        expectKeyword "END"
        pure (.cases base arms otherwise)
      | "CAST" =>
        advance
        expectOp "("
        let e ← expr fuel
        expectKeyword "AS"
        let t ← typeText
        expectOp ")"
        pure (.cast e t)
      | "EXISTS" =>
        advance
        expectOp "("
        let q ← query fuel
        expectOp ")"
        pure (.exists q)
      | "RAISE" =>
        advance
        expectOp "("
        if ← keyword "IGNORE" then
          expectOp ")"
          pure (.raise .ignore "")
        else
          let k ← if ← keyword "ROLLBACK" then pure RaiseKind.rollback
            else if ← keyword "ABORT" then pure RaiseKind.abort
            else if ← keyword "FAIL" then pure RaiseKind.fail
            else syntaxError
          expectOp ","
          let m ← name
          expectOp ")"
          pure (.raise k m)
      | "CURRENT_DATE" | "CURRENT_TIME" | "CURRENT_TIMESTAMP" =>
        advance
        let n := (upper w).toLower
        pure (.call n n false [] false none)
      | _ =>
        if isReserved w then syntaxError
        else
          advance
          nameForm fuel w false
    | _ => syntaxError

/-- What follows a name in an expression: a call, a qualified column, or the column itself. -/
def nameForm : Nat → String → Bool → Parse Expr
  | 0, _, _ => throw tooDeep
  | fuel + 1, n, dq => do
    if ← op "(" then
      let distinct ← keyword "DISTINCT"
      if !distinct then let _ ← keyword "ALL"
      let (args, star) ←
        if ← op "*" then pure ([], true)
        else if ← atOp ")" then pure ([], false)
        else pure (← exprList fuel, false)
      expectOp ")"
      let filter ← if ← keyword "FILTER" then
          expectOp "("
          expectKeyword "WHERE"
          let c ← expr fuel
          expectOp ")"
          pure (some c)
        else pure none
      if ← keyword "OVER" then
        let w ← if ← atOp "(" then windowSpec fuel else Window.named <$> name
        if distinct then throw "DISTINCT is not supported for window functions"
        pure (.window n n args star filter w)
      else pure (.call n n distinct args star filter)
    else if ← op "." then
      let c ← name
      if ← op "." then
        let c2 ← name
        pure (.column (some c) c2 false)
      else pure (.column (some n) c false)
    else pure (.column none n dq)

/-- Expressions separated by commas. -/
def exprList : Nat → Parse (List Expr)
  | 0 => throw tooDeep
  | fuel + 1 => do
    let e ← expr fuel
    if ← op "," then pure (e :: (← exprList fuel)) else pure [e]

/-- Expressions in brackets, possibly none. -/
def bracketedExprs : Nat → Parse (List Expr)
  | 0 => throw tooDeep
  | fuel + 1 => do
    expectOp "("
    if ← op ")" then pure []
    else
      let es ← exprList fuel
      expectOp ")"
      pure es

/-- The `WHEN … THEN …` arms of a `CASE` expression. -/
def caseArms : Nat → List (Expr × Expr) → Parse (List (Expr × Expr))
  | 0, _ => throw tooDeep
  | fuel + 1, acc => do
    expectKeyword "WHEN"
    let w ← expr fuel
    expectKeyword "THEN"
    let t ← expr fuel
    let acc := acc ++ [(w, t)]
    if ← atKeyword "WHEN" then caseArms fuel acc else pure acc

/-- A query. -/
def query : Nat → Parse Query
  | 0 => throw tooDeep
  | fuel + 1 => do
    let (ctes, recursive) ← if ← keyword "WITH" then
        let r ← keyword "RECURSIVE"
        pure (← cteList fuel, r)
      else pure ([], false)
    let first ← selectCore fuel
    let rest ← compoundRest fuel []
    let orderBy ← if ← keyword "ORDER" then do expectKeyword "BY"; orderTerms fuel
      else pure []
    let (limit, offset) ← if ← keyword "LIMIT" then
        let a ← expr fuel
        if ← keyword "OFFSET" then pure (some a, some (← expr fuel))
        else if ← op "," then pure (some (← expr fuel), some a)
        else pure (some a, none)
      else pure (none, none)
    pure (.query ctes recursive first rest orderBy limit offset)

/-- Common table expressions separated by commas. -/
def cteList : Nat → Parse (List Cte)
  | 0 => throw tooDeep
  | fuel + 1 => do
    let n ← name
    let cols ← if ← atOp "(" then some <$> bracketed name else pure none
    expectKeyword "AS"
    if ← keyword "NOT" then expectKeyword "MATERIALIZED"
    else let _ ← keyword "MATERIALIZED"
    expectOp "("
    let q ← query fuel
    expectOp ")"
    let c := Cte.cte n cols q
    if ← op "," then pure (c :: (← cteList fuel)) else pure [c]

/-- The cores combined with the first one of a query. -/
def compoundRest : Nat → List (SetOp × Select) → Parse (List (SetOp × Select))
  | 0, _ => throw tooDeep
  | fuel + 1, acc => do
    let o ← if ← keyword "UNION" then
        if ← keyword "ALL" then pure (some SetOp.unionAll) else pure (some SetOp.union)
      else if ← keyword "INTERSECT" then pure (some SetOp.intersect)
      else if ← keyword "EXCEPT" then pure (some SetOp.except)
      else pure none
    match o with
    | some o => compoundRest fuel (acc ++ [(o, ← selectCore fuel)])
    | none => pure acc

/-- One `SELECT` or `VALUES` core. -/
def selectCore : Nat → Parse Select
  | 0 => throw tooDeep
  | fuel + 1 => do
    if ← keyword "VALUES" then
      let rows ← valueRows fuel []
      pure (.values rows)
    else
      expectKeyword "SELECT"
      let distinct ← keyword "DISTINCT"
      if !distinct then let _ ← keyword "ALL"
      let cols ← resultColumns fuel
      let source ← if ← keyword "FROM" then some <$> source fuel else pure none
      let filter ← if ← keyword "WHERE" then some <$> expr fuel else pure none
      let groupBy ← if ← keyword "GROUP" then do expectKeyword "BY"; exprList fuel else pure []
      let having ← if ← keyword "HAVING" then some <$> expr fuel else pure none
      let windows ← if ← keyword "WINDOW" then windowDefs fuel else pure []
      pure (.select distinct cols source filter groupBy having windows)

/-- The named windows of a `WINDOW` clause. -/
def windowDefs : Nat → Parse (List (String × Window))
  | 0 => throw tooDeep
  | fuel + 1 => do
    let n ← name
    expectKeyword "AS"
    let w ← windowSpec fuel
    if ← op "," then pure ((n, w) :: (← windowDefs fuel)) else pure [(n, w)]

/-- A window in brackets: the window it builds on, its partition, its order and its frame. -/
def windowSpec : Nat → Parse Window
  | 0 => throw tooDeep
  | fuel + 1 => do
    expectOp "("
    let base ← match ← peek with
      | some (.word w) =>
        if ["PARTITION", "ORDER", "RANGE", "ROWS", "GROUPS"].contains (upper w) then pure none
        else some <$> name
      | some (.quoted _ _) | some (.str _) => some <$> name
      | _ => pure none
    let partition ← if ← keyword "PARTITION" then do expectKeyword "BY"; exprList fuel
      else pure []
    let order ← if ← keyword "ORDER" then do expectKeyword "BY"; orderTerms fuel else pure []
    let unit ← if ← keyword "RANGE" then pure (some FrameUnit.range)
      else if ← keyword "ROWS" then pure (some FrameUnit.rows)
      else if ← keyword "GROUPS" then pure (some FrameUnit.groups)
      else pure none
    let frame ← match unit with
      | none => pure none
      | some u => do
        let (start, finish) ← if ← keyword "BETWEEN" then
            let s ← frameBound fuel true
            expectKeyword "AND"
            pure (s, ← frameBound fuel false)
          else pure (← frameBound fuel true, FrameBound.current)
        let exclude ← if ← keyword "EXCLUDE" then
            if ← keyword "NO" then do expectKeyword "OTHERS"; pure FrameExclude.noOthers
            else if ← keyword "CURRENT" then do expectKeyword "ROW"; pure FrameExclude.currentRow
            else if ← keyword "GROUP" then pure FrameExclude.group
            else if ← keyword "TIES" then pure FrameExclude.ties
            else syntaxError
          else pure FrameExclude.noOthers
        let unsupported := match start, finish with
          | .current, .preceding _ => true
          | .following _, .preceding _ | .following _, .current => true
          | _, _ => false
        if unsupported then throw "unsupported frame specification"
        pure (some (WindowFrame.frame u start finish exclude))
    expectOp ")"
    pure (.spec base partition order frame)

/-- A bound of a frame: `UNBOUNDED PRECEDING` only as a start, `UNBOUNDED FOLLOWING` only as an
end. -/
def frameBound : Nat → Bool → Parse FrameBound
  | 0, _ => throw tooDeep
  | fuel + 1, isStart => do
    if ← keyword "UNBOUNDED" then
      expectKeyword (if isStart then "PRECEDING" else "FOLLOWING")
      pure .unbounded
    else if ← keyword "CURRENT" then
      expectKeyword "ROW"
      pure .current
    else
      let e ← expr fuel
      if ← keyword "PRECEDING" then pure (.preceding (frameOffset e))
      else if ← keyword "FOLLOWING" then pure (.following (frameOffset e))
      else syntaxError

/-- The rows of `VALUES`, all of one width. -/
def valueRows : Nat → List (List Expr) → Parse (List (List Expr))
  | 0, _ => throw tooDeep
  | fuel + 1, acc => do
    expectOp "("
    let row ← exprList fuel
    expectOp ")"
    match acc with
    | first :: _ =>
      if first.length != row.length then throw "all VALUES must have the same number of terms"
    | [] => pure ()
    if ← op "," then valueRows fuel (row :: acc) else pure (row :: acc).reverse

/-- The result columns of a `SELECT`. -/
def resultColumns : Nat → Parse (List ResultColumn)
  | 0 => throw tooDeep
  | fuel + 1 => do
    let c ← resultColumn fuel
    if ← op "," then pure (c :: (← resultColumns fuel)) else pure [c]

/-- One result column. -/
def resultColumn : Nat → Parse ResultColumn
  | 0 => throw tooDeep
  | fuel + 1 => do
    if ← op "*" then pure .all
    else
      let ts ← get
      let starOf : Option String := match ts with
        | a :: b :: c :: _ =>
          match a.token, b.token, c.token with
          | .word w, .op ".", .op "*" => if isReserved w then none else some w
          | .quoted t _, .op ".", .op "*" => some t
          | _, _, _ => none
        | _ => none
      match starOf with
      | some t => advance; advance; advance; pure (.allOf t)
      | none =>
        let (e, text) ← spanOf (expr fuel)
        let a ← asName
        pure (.expr e a text)

/-- A source of rows with its joins. -/
def source : Nat → Parse Source
  | 0 => throw tooDeep
  | fuel + 1 => do
    let first ← sourceItem fuel
    joins fuel first

/-- The joins after a first source. -/
def joins : Nat → Source → Parse Source
  | 0, _ => throw tooDeep
  | fuel + 1, left => do
    let kind ← joinOperator
    match kind with
    | none => pure left
    | some (kind, natural) =>
      let right ← sourceItem fuel
      let (on, cols) ← if ← keyword "ON" then pure (some (← expr fuel), [])
        else if ← keyword "USING" then pure (none, ← bracketed name)
        else pure (none, [])
      joins fuel (.join left kind natural right on cols)

/-- One table, view, subquery or bracketed join of a `FROM` clause. -/
def sourceItem : Nat → Parse Source
  | 0 => throw tooDeep
  | fuel + 1 => do
    if ← op "(" then
      if startsQuery (← peek) then
        let q ← query fuel
        expectOp ")"
        pure (.query q (← asName))
      else
        let s ← source fuel
        expectOp ")"
        match s with
        | .table t none => pure (.table t (← asName))
        | .query q none => pure (.query q (← asName))
        | s => let _ ← asName; pure s
    else
      let (_, t) ← qualifiedName
      if ← atOp "(" then
        let args ← bracketedExprs fuel
        return .function t args (← asName)
      let a ← asName
      if ← keyword "INDEXED" then
        expectKeyword "BY"
        let _ ← name
      else if ← atKeyword "NOT" then
        advance
        expectKeyword "INDEXED"
      pure (.table t a)

/-- The terms of `ORDER BY`. -/
def orderTerms : Nat → Parse (List OrderTerm)
  | 0 => throw tooDeep
  | fuel + 1 => do
    let e ← expr fuel
    let descending ← keyword "DESC"
    if !descending then let _ ← keyword "ASC"
    let nulls ← if ← keyword "NULLS" then
        if ← keyword "FIRST" then pure (some true)
        else do expectKeyword "LAST"; pure (some false)
      else pure none
    let t := OrderTerm.term e descending nulls
    if ← op "," then pure (t :: (← orderTerms fuel)) else pure [t]

end

end Parse

end Sql

end TelemetryBridge
