import TelemetryBridge.Sql.Function.Date
import TelemetryBridge.Sql.Function.Json
import TelemetryBridge.Sql.Compare
import TelemetryBridge.Sql.Arithmetic

/-!
# Calling the built-in functions

Functions are found by name without regard to ASCII case and by their number of arguments. A
name may stand for several functions: `max(X)` is the aggregate and `max(X, Y, …)` the scalar
function. A call whose name is known with another number of arguments is refused as a wrong
number of arguments, one whose name is not known at all as no such function.

This module holds the table of names and the scalar functions. Each takes its arguments
already evaluated, except that `coalesce`, `ifnull` and `iif` are left to the evaluator, which
evaluates their arguments only as far as needed.

Main definitions: `Sql.Function.Kind`, `Sql.Function.classify`, `Sql.Function.call`.
-/

namespace TelemetryBridge

namespace Sql

/-- The counters of a connection that functions read. -/
structure Counters where
  lastRowid : Int := 0
  changes : Int := 0
  totalChanges : Int := 0
  deriving Inhabited

/-- An argument of a function: its value, and whether it is JSON that another JSON function
made (which JSON functions then take as JSON rather than as a string). -/
structure Arg where
  value : Value
  json : Bool := false
  deriving Inhabited

namespace Function

/-- What a name with a number of arguments calls. -/
inductive Kind where
  | scalar
  | aggregate
  /-- A window function, which needs `OVER`. -/
  | window
  deriving Repr, DecidableEq, Inhabited

/-- Why a call finds no function. -/
inductive Missing where
  | noSuchFunction
  | wrongArguments
  deriving Repr, DecidableEq, Inhabited

/-- The least and (when bounded) the largest number of arguments. -/
abbrev Arity := Nat × Option Nat

/-- The arities of the scalar functions, by upper-case name. -/
def scalarArity : String → Option Arity
  | "ABS" | "HEX" | "LENGTH" | "OCTET_LENGTH" | "LOWER" | "UPPER" | "QUOTE" | "RANDOMBLOB"
  | "SIGN" | "TYPEOF" | "UNICODE" | "UNLIKELY" | "LIKELY" | "ZEROBLOB" | "UNISTR_QUOTE"
  | "JSON" | "JSON_QUOTE" | "JSON_ERROR_POSITION" | "UNISTR" | "OFFSETS" | "OPTIMIZE" =>
    some (1, some 1)
  | "CHANGES" | "TOTAL_CHANGES" | "LAST_INSERT_ROWID" | "RANDOM" | "SQLITE_VERSION"
  | "SQLITE_SOURCE_ID" | "CURRENT_DATE" | "CURRENT_TIME" | "CURRENT_TIMESTAMP" => some (0, some 0)
  | "CHAR" | "PRINTF" | "FORMAT" | "DATE" | "TIME" | "DATETIME" | "JULIANDAY" | "UNIXEPOCH"
  | "STRFTIME" | "JSON_ARRAY" | "JSON_OBJECT" | "JSON_EXTRACT" | "JSON_INSERT" | "JSON_REPLACE"
  | "JSON_SET" | "JSON_REMOVE" | "SNIPPET" => some (0, none)
  | "COALESCE" | "CONCAT_WS" | "IIF" | "IF" => some (2, none)
  | "CONCAT" | "MAX" | "MIN" => some (1, none)
  | "GLOB" | "IFNULL" | "INSTR" | "LIKELIHOOD" | "NULLIF" | "TIMEDIFF" | "JSON_PATCH"
  | "->" | "->>" | "MATCH" => some (2, some 2)
  | "MATCHINFO" => some (1, some 2)
  | "LIKE" => some (2, some 3)
  | "LTRIM" | "RTRIM" | "TRIM" | "ROUND" | "UNHEX" | "JSON_ARRAY_LENGTH" | "JSON_TYPE"
  | "JSON_VALID" | "JSON_PRETTY" | "LOAD_EXTENSION" => some (1, some 2)
  | "SUBSTR" | "SUBSTRING" => some (2, some 3)
  | "REPLACE" => some (3, some 3)
  | _ => none

/-- The arities of the aggregate functions. -/
def aggregateArity : String → Option Arity
  | "COUNT" => some (0, some 1)
  | "SUM" | "TOTAL" | "AVG" | "MIN" | "MAX" | "JSON_GROUP_ARRAY" => some (1, some 1)
  | "GROUP_CONCAT" => some (1, some 2)
  | "STRING_AGG" | "JSON_GROUP_OBJECT" => some (2, some 2)
  | _ => none

/-- The arities of the window functions. -/
def windowArity : String → Option Arity
  | "ROW_NUMBER" | "RANK" | "DENSE_RANK" | "PERCENT_RANK" | "CUME_DIST" => some (0, some 0)
  | "NTILE" | "FIRST_VALUE" | "LAST_VALUE" => some (1, some 1)
  | "NTH_VALUE" => some (2, some 2)
  | "LAG" | "LEAD" => some (1, some 3)
  | _ => none

/-- Whether a number of arguments fits an arity. -/
def fits (a : Arity) (n : Nat) : Bool :=
  a.1 ≤ n && (match a.2 with
    | some hi => n ≤ hi
    | none => true)

/-- What a call of an upper-case name with a number of arguments calls: an aggregate where one
takes exactly that many, else a window or scalar function that does, else why none does. -/
def classify (key : String) (n : Nat) : Except Missing Kind :=
  let scalar := scalarArity key
  let agg := aggregateArity key
  let win := windowArity key
  if (agg.map (fits · n)).getD false then .ok .aggregate
  else if (win.map (fits · n)).getD false then .ok .window
  else if (scalar.map (fits · n)).getD false then .ok .scalar
  else if scalar.isSome || agg.isSome || win.isSome then .error .wrongArguments
  else .error .noSuchFunction

/-- The functions whose result is JSON that other JSON functions take as such. -/
def makesJson (key : String) : Bool :=
  ["JSON", "JSON_ARRAY", "JSON_OBJECT", "JSON_INSERT", "JSON_REPLACE", "JSON_SET",
   "JSON_REMOVE", "JSON_PATCH", "JSON_QUOTE", "JSON_GROUP_ARRAY", "JSON_GROUP_OBJECT", "->",
   "JSON_PRETTY"].contains key

/-- The functions whose result depends on more than their arguments, which checks and index
expressions refuse. -/
def nondeterministic (key : String) : Bool :=
  ["RANDOM", "RANDOMBLOB", "CHANGES", "TOTAL_CHANGES", "LAST_INSERT_ROWID"].contains key

/-- The longest pattern `LIKE` and `GLOB` accept, in bytes. -/
def patternLimit : Nat := 50000

/-- `LIKE` and `GLOB` as functions: the pattern first, then the text, then for `LIKE` an
optional escape character. -/
def patternMatch (glob : Bool) (pat str : Value) (escape : Option Value) : Except String Value :=
  if (Bytes.ofString pat.asText).length > patternLimit then .error "LIKE or GLOB pattern too complex"
  else
    let rules : Except String (Option Pattern) :=
      match escape with
      | none => .ok (some (if glob then Pattern.glob else Pattern.like none))
      | some .null => .ok none
      | some e =>
        match e.asText.toList with
        | [c] => .ok (some (Pattern.like (some c)))
        | _ => .error "ESCAPE expression must be a single character"
    match rules with
    | .error m => .error m
    | .ok none => .ok .null
    | .ok (some r) =>
      if pat.isNull || str.isNull then .ok .null
      else .ok (.integer (if r.«matches» pat.asText str.asText then 1 else 0))

/-- `round(X, N)`: a double rounded to `N` places (clamped to 0 through 30), half away from
zero; to a whole number by conversion when `N` is zero, else by writing it with `N` places and
reading it back. Doubles beyond `2^52` in size are whole already. -/
def round (x : Value) (n : Option Value) : Value :=
  match n with
  | some .null => .null
  | _ =>
    if x.isNull then .null else
    let places : Int := match n with
      | some v => max 0 (min 30 v.intValue)
      | none => 0
    let r := x.realValue
    if r < -4503599627370496.0 || r > 4503599627370496.0 then .real r
    else if places == 0 then
      .real (Float.ofInt (realToInt (r + (if r < 0 then -0.5 else 0.5))))
    else
      let text := Format.real { secondAlternate := true, precision := some places.toNat } 'f' r
      .real (NumberText.read (Value.bytesText text)).value

/-- `abs(X)`: the magnitude of an integer (the smallest integer has none), else of the double
of the value. -/
def abs (x : Value) : Except String Value :=
  match x with
  | .null => .ok .null
  | .integer n => if n == minInt then .error "integer overflow" else .ok (.integer n.natAbs)
  | v =>
    let r := v.realValue
    .ok (.real (if r < 0 then -r else r))

/-- `sign(X)`: `-1`, `0` or `1` for a number or a text that is one; null otherwise. -/
def sign (x : Value) : Value :=
  match x.numericForm false with
  | .integer n => .integer (if n < 0 then -1 else if n > 0 then 1 else 0)
  | .real r => .integer (if r < 0 then -1 else if r > 0 then 1 else 0)
  | _ => .null

/-- The best of values under a collation for the scalar `min` (`isMax` false) and `max`: null
when any is null; among equals `max` keeps the first and `min` the last. -/
def extreme (isMax : Bool) (coll : Collation) (vs : List Value) : Value :=
  if vs.any Value.isNull then .null
  else
    match vs with
    | [] => .null
    | v :: rest =>
      rest.foldl (fun best w =>
        let c := best.order coll w
        if isMax then (if c == .lt then w else best) else (if c != .lt then w else best)) v

/-- Reads `\XXXX`, `\uXXXX`, `\+XXXXXX` and `\UXXXXXXXX` escapes and `\\` in a text. -/
def unistr (s : String) : Except String String :=
  let hexN (cs : List Char) (n : Nat) : Option Nat :=
    let ds := cs.take n
    if ds.length == n && ds.all fun c => c.toNat < 128 && (Bytes.hexValue? c.toNat.toUInt8).isSome then
      some (ds.foldl (fun acc c => 16 * acc + (Bytes.hexValue? c.toNat.toUInt8).getD 0) 0)
    else none
  let rec go : Nat → List Char → List Char → Except String String
    | 0, _, acc => .ok (String.ofList acc.reverse)
    | fuel + 1, cs, acc =>
      match cs with
      | [] => .ok (String.ofList acc.reverse)
      | '\\' :: '\\' :: rest => go fuel rest ('\\' :: acc)
      | '\\' :: rest =>
        let (n, k) := match rest with
          | 'u' :: more => (hexN more 4, 5)
          | '+' :: more => (hexN more 6, 7)
          | 'U' :: more => (hexN more 8, 9)
          | more => (hexN more 4, 4)
        match n with
        | some c => if c > 0x10ffff then .error "invalid Unicode escape"
          else go fuel (rest.drop k) (Char.ofNat c :: acc)
        | none => .error "invalid Unicode escape"
      | c :: rest => go fuel rest (c :: acc)
  go (s.length + 1) s.toList []

/-- The moment of a date function's arguments, its date and time computed. -/
def moment? (args : List Value) : Option Moment := (Moment.ofArgs args).map Moment.withDateTime

/-- A date function's text, or null. -/
def dateResult (f : Moment → String) (args : List Value) : Value :=
  match moment? args with
  | some p => .text (f p)
  | none => .null

/-- The JSON document of a function's first argument: a text is read as JSON, a number as
itself; a blob is not JSON. -/
def document (a : Arg) : Except String Json.Node :=
  match a.value with
  | .text s => Json.parse s
  | .integer n => .ok (.number (toString n) false)
  | .real x => .ok (.number (Json.realNumber x) true)
  | .blob _ => .error "malformed JSON"
  | .null => .ok .null

/-- The message for a malformed path. -/
def badPath (p : String) : String := "bad JSON path: " ++ Value.bytesText (Format.quoted {} 'Q' (some (Bytes.ofString p)))

/-- The JSON of an argument standing for a value. -/
def jsonOf (a : Arg) : Except String Json.Node := Json.ofValue a.value a.json

/-- `json_extract` and the arrows: the value at each path. One path gives the SQL value there
(null when missing; `->` gives its JSON text instead), several give a JSON array. -/
def extract (arrow : Option Bool) (doc : Arg) (paths : List Value) : Except String Value := do
  if paths.isEmpty || doc.value.isNull || paths.any Value.isNull then return .null
  let v ← document doc
  let pathOf (p : Value) : String :=
    match arrow with
    | some _ => (Json.abbreviatedPath p).getD p.asText
    | none => p.asText
  match paths with
  | [p] =>
    match Json.lookup v (pathOf p) with
    | .value w =>
      match arrow with
      | some true => pure (.text w.render)
      | _ => pure (Json.toValue w)
    | .missing => pure .null
    | .badPath => throw (badPath p.asText)
  | _ =>
    let items ← paths.mapM fun p =>
      match Json.lookup v (pathOf p) with
      | .value w => pure w
      | .missing => pure Json.Node.null
      | .badPath => throw (badPath p.asText)
    pure (.text (Json.Node.array items).render)

/-- `json_insert`, `json_replace` and `json_set`: edits at each path in turn; a null path is
passed over. -/
def editAll (mode : Json.EditMode) (name : String) (args : List Arg) : Except String Value := do
  match args with
  | [] => pure .null
  | doc :: rest =>
    if rest.length % 2 == 1 then
      throw ("json_" ++ name ++ "() needs an odd number of arguments")
    if doc.value.isNull then return .null
    let v ← document doc
    let rec go : List Arg → Json.Node → Except String Json.Node
      | p :: x :: more, v =>
        if p.value.isNull then go more v
        else do
          let path := p.value.asText
          if !path.startsWith "$" then throw (badPath path)
          let w ← jsonOf x
          match Json.edit mode (some w) v path with
          | .ok v' => go more v'
          | .error () => throw (badPath path)
      | _, v => pure v
    pure (.text (← go rest v).render)

/-- `json_remove`: removes the place of each path in turn; removing `$` gives null. -/
def removeAll (doc : Arg) (paths : List Value) : Except String Value := do
  if doc.value.isNull then return .null
  let v ← document doc
  let rec go : List Value → Json.Node → Except String (Option Json.Node)
    | [], v => pure (some v)
    | p :: more, v =>
      match p with
      | .null => pure none
      | p =>
        let path := p.asText
        if !path.startsWith "$" then throw (badPath path)
        else if path == "$" then pure none
        else
          match Json.edit .set none v path with
          | .ok v' => go more v'
          | .error () => throw (badPath path)
  match ← go paths v with
  | some w => pure (.text w.render)
  | none => pure .null

/-- `json_type` and `json_array_length`: the part of a document a path names, if any. -/
def part (doc : Arg) (path : Option Value) : Except String (Option (Option Json.Node)) := do
  if doc.value.isNull then return none
  let v ← document doc
  match path with
  | none => pure (some (some v))
  | some .null => pure none
  | some p =>
    match Json.lookup v p.asText with
    | .value w => pure (some (some w))
    | .missing => pure (some none)
    | .badPath => throw (badPath p.asText)

/-- `json_object(K, V, …)`: an object of the labels and values. -/
def object (args : List Arg) : Except String Value := do
  if args.length % 2 == 1 then throw "json_object() requires an even number of arguments"
  let rec go : List Arg → Except String (List (String × Json.Node))
    | k :: v :: more => do
      match k.value with
      | .text s =>
        let w ← jsonOf v
        pure ((Json.escape s, w) :: (← go more))
      | _ => throw "json_object() labels must be TEXT"
    | _ => pure []
  pure (.text (Json.Node.object (← go args)).render)

/-- `json_valid(X, FLAGS)`: whether a text is JSON (`FLAGS` 1, the default), or JSON5 (2). -/
def valid (x : Value) (flags : Option Value) : Except String Value := do
  let f : Int := (flags.map Value.intValue).getD 1
  if f < 1 || f > 15 then throw "FLAGS parameter to json_valid() must be between 1 and 15"
  match x with
  | .null => pure .null
  | .blob _ => pure (.integer 0)
  | v =>
    if f % 4 == 0 then pure (.integer 0)
    else
      match Json.parseText v.asText with
      | .ok (_, nonstandard) =>
        pure (.integer (if (f / 2) % 2 == 1 || !nonstandard then 1 else 0))
      | .error _ => pure (.integer 0)

/-- `iif(C, X, …, ELSE)`: the value after the first true condition, else the last odd
argument, else null. -/
def choose : List Value → Value
  | c :: x :: rest => if c.truth == some true then x else choose rest
  | [x] => x
  | [] => .null

/-- The version the database reports. -/
def version : String := "3.50.4"

/-- Calls a scalar function by its upper-case name on evaluated arguments. `coll` is the
collation of the arguments where the function compares them. -/
def call (ctr : Counters) (coll : Collation) (key : String) (args : List Arg) :
    Except String Value :=
  let vs := args.map (·.value)
  let v (i : Nat) : Value := vs.getD i .null
  let opt (i : Nat) : Option Value := vs[i]?
  let text (s : String) : Except String Value := .ok (.text s)
  match key with
  | "ABS" => abs (v 0)
  | "CHANGES" => .ok (.integer ctr.changes)
  | "TOTAL_CHANGES" => .ok (.integer ctr.totalChanges)
  | "LAST_INSERT_ROWID" => .ok (.integer ctr.lastRowid)
  | "CHAR" => .ok (charOf vs)
  | "COALESCE" | "IFNULL" => .ok ((vs.find? (!·.isNull)).getD .null)
  | "CONCAT" => .ok (concatAll vs)
  | "CONCAT_WS" => .ok (concatWith (v 0) (vs.drop 1))
  | "PRINTF" | "FORMAT" =>
    match vs with
    | [] => .ok .null
    | f :: rest =>
      match Format.textBytes f with
      | none => .ok .null
      | some fmt => (Format.render fmt rest).map fun out => .text (Value.bytesText out)
  | "GLOB" => patternMatch true (v 0) (v 1) none
  | "LIKE" => patternMatch false (v 0) (v 1) (opt 2)
  | "HEX" => .ok (hexOf (v 0))
  | "IIF" | "IF" => .ok (choose vs)
  | "INSTR" => .ok (instr (v 0) (v 1))
  | "LENGTH" => .ok (lengthOf (v 0))
  | "OCTET_LENGTH" => .ok (octetLength (v 0))
  | "LIKELY" | "UNLIKELY" | "LIKELIHOOD" => .ok (v 0)
  | "LOWER" => .ok ((v 0).text?.map (Value.text ∘ lowerText) |>.getD .null)
  | "UPPER" => .ok ((v 0).text?.map (Value.text ∘ upperText) |>.getD .null)
  | "LTRIM" => .ok (trimChars (v 0) (opt 1) true false)
  | "RTRIM" => .ok (trimChars (v 0) (opt 1) false true)
  | "TRIM" => .ok (trimChars (v 0) (opt 1) true true)
  | "MAX" => .ok (extreme true coll vs)
  | "MIN" => .ok (extreme false coll vs)
  | "NULLIF" => .ok (if (v 0).order coll (v 1) != .eq then v 0 else .null)
  | "QUOTE" => .ok (quote (v 0))
  | "UNISTR_QUOTE" => .ok (unistrQuote (v 0))
  | "MATCH" | "SNIPPET" | "OFFSETS" | "MATCHINFO" | "OPTIMIZE" =>
    .error ("unable to use function " ++ (if key == "MATCH" then key else key.toLower) ++
      " in the requested context")
  | "RANDOM" => .ok (.integer 0)
  | "RANDOMBLOB" =>
    let n := (v 0).intValue
    .ok (.blob (List.replicate (if n < 1 then 1 else n.toNat) 0))
  | "ZEROBLOB" =>
    let n := (v 0).intValue
    if n > Format.maxLength then .error "string or blob too big"
    else .ok (.blob (List.replicate n.toNat 0))
  | "REPLACE" => .ok (replaceAll (v 0) (v 1) (v 2))
  | "ROUND" => .ok (round (v 0) (opt 1))
  | "SIGN" => .ok (sign (v 0))
  | "SUBSTR" | "SUBSTRING" =>
    if (v 1).isNull || ((opt 2).map Value.isNull).getD false then .ok .null
    else .ok (substr (v 0) (v 1).intValue ((opt 2).map Value.intValue))
  | "TYPEOF" => text (typeName (v 0))
  | "UNHEX" => .ok (unhex (v 0) (opt 1))
  | "UNICODE" => .ok (unicodeOf (v 0))
  | "UNISTR" => if (v 0).isNull then .ok .null else (unistr (v 0).asText).map Value.text
  | "SQLITE_VERSION" => text version
  | "SQLITE_SOURCE_ID" => text version
  | "LOAD_EXTENSION" => .error "not authorized"
  | "DATE" => .ok (dateResult Moment.dateText vs)
  | "TIME" => .ok (dateResult Moment.timeText vs)
  | "DATETIME" => .ok (dateResult (fun p => p.dateText ++ " " ++ p.timeText) vs)
  | "CURRENT_DATE" => .ok (dateResult Moment.dateText [])
  | "CURRENT_TIME" => .ok (dateResult Moment.timeText [])
  | "CURRENT_TIMESTAMP" => .ok (dateResult (fun p => p.dateText ++ " " ++ p.timeText) [])
  | "JULIANDAY" =>
    .ok (match Moment.ofArgs vs with
      | some p => .real (Float.ofInt p.jd / 86400000.0)
      | none => .null)
  | "UNIXEPOCH" =>
    .ok (match Moment.ofArgs vs with
      | some p => p.epochValue
      | none => .null)
  | "STRFTIME" =>
    match vs with
    | [] => .ok .null
    | f :: rest =>
      if f.isNull then .ok .null
      else
        match Moment.ofArgs rest with
        | some p =>
          match strftime f.asText p with
          | some s => .ok (.text s)
          | none => .ok .null
        | none => .ok .null
  | "TIMEDIFF" =>
    match Moment.ofArgs [v 0], Moment.ofArgs [v 1] with
    | some a, some b => .ok (.text (timediff a b))
    | _, _ => .ok .null
  | "JSON" =>
    if (v 0).isNull then .ok .null else (document (args.getD 0 default)).map fun n => .text n.render
  | "JSON_PRETTY" =>
    if (v 0).isNull then .ok .null
    else
      let indent := match opt 1 with
        | some .null | none => "    "
        | some i => i.asText
      (document (args.getD 0 default)).map fun n => .text (n.pretty indent 0)
  | "JSON_QUOTE" => (jsonOf (args.getD 0 default)).map fun n => .text n.render
  | "JSON_ARRAY" => (args.mapM jsonOf).map fun ns => .text (Json.Node.array ns).render
  | "JSON_OBJECT" => object args
  | "JSON_EXTRACT" => extract none (args.getD 0 default) (vs.drop 1)
  | "->" => extract (some true) (args.getD 0 default) [v 1]
  | "->>" => extract (some false) (args.getD 0 default) [v 1]
  | "JSON_INSERT" => editAll .insert "insert" args
  | "JSON_REPLACE" => editAll .replace "replace" args
  | "JSON_SET" => editAll .set "set" args
  | "JSON_REMOVE" =>
    match args with
    | [] => .ok .null
    | doc :: paths => removeAll doc (paths.map (·.value))
  | "JSON_PATCH" =>
    if (v 0).isNull || (v 1).isNull then .ok .null
    else do
      let a ← document (args.getD 0 default)
      let b ← document (args.getD 1 default)
      pure (.text (Json.patch 1000 a b).render)
  | "JSON_TYPE" =>
    (part (args.getD 0 default) (opt 1)).map fun
      | some (some n) => .text n.typeName
      | _ => .null
  | "JSON_ARRAY_LENGTH" =>
    (part (args.getD 0 default) (opt 1)).map fun
      | some (some (.array items)) => .integer items.length
      | some (some _) => .integer 0
      | _ => .null
  | "JSON_VALID" => valid (v 0) (opt 1)
  | "JSON_ERROR_POSITION" =>
    match v 0 with
    | .null => .ok .null
    | x =>
      match Json.parseText x.asText with
      | .ok _ => .ok (.integer 0)
      | .error p => .ok (.integer p)
  | _ => .error ("no such function: " ++ key)

end Function

end Sql

end TelemetryBridge
