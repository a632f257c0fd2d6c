import TelemetryBridge.Sql.Function.Call

/-!
# Aggregate functions

An aggregate folds the arguments of the rows of a group into one value:

* `count(*)` counts the rows and `count(X)` the rows where `X` is not null;
* `sum(X)` adds the numbers of the rows (nulls left out): exactly in 64-bit integers while
  every value is an integer (an overflow fails the query with `integer overflow`), else in
  doubles with compensated summation (Kahan–Babuška–Neumaier), an integer beyond `2^52` being
  split in two parts first; `sum` of no rows is null, `total` is `0.0` then and always a
  double, `avg` divides the sum by the count;
* `min(X)` and `max(X)` give the least and greatest value under the argument's collation, the
  first of equals;
* `group_concat(X, SEP)` and `string_agg` join the texts of the non-null values, each but the
  first preceded by its row's separator (a comma by default);
* `json_group_array(X)` and `json_group_object(K, V)` collect values into JSON.

Main definitions: `Sql.Function.Sum`, `Sql.Function.aggregate`.
-/

namespace TelemetryBridge

namespace Sql

namespace Function

/-- A running sum: the integer sum while all values are integers, else a double with its
error term; `overflow` records that the integer sum left 64 bits. -/
structure Sum where
  real : Float := 0
  error : Float := 0
  int : Int := 0
  count : Nat := 0
  approx : Bool := false
  overflow : Bool := false
  deriving Inhabited

namespace Sum

/-- Adds a double with compensation for the bits lost. -/
def addReal (s : Sum) (r : Float) : Sum :=
  let t := s.real + r
  let e := if s.real.abs > r.abs then (s.real - t) + r else (r - t) + s.real
  { s with real := t, error := s.error + e }

/-- Adds an integer, split in two parts when a double cannot hold it exactly. -/
def addInt (s : Sum) (i : Int) : Sum :=
  if i ≤ -4503599627370496 || i ≥ 4503599627370496 then
    let small := i.tmod 16384
    (s.addReal (Float.ofInt (i - small))).addReal (Float.ofInt small)
  else s.addReal (Float.ofInt i)

/-- Starts the double sum from the integer sum so far. -/
def start (s : Sum) : Sum :=
  let i := s.int
  if i ≤ -4503599627370496 || i ≥ 4503599627370496 then
    let small := i.tmod 16384
    { s with real := Float.ofInt (i - small), error := Float.ofInt small, approx := true }
  else { s with real := Float.ofInt i, error := 0, approx := true }

/-- Adds a value: a text that is a number counts as that number, null is left out. -/
def step (s : Sum) (v : Value) : Sum :=
  match v.numericForm false with
  | .null => s
  | w =>
    let s := { s with count := s.count + 1 }
    if !s.approx then
      match w with
      | .integer i =>
        if inRange (s.int + i) then { s with int := s.int + i }
        else ({ s with overflow := true }.start).addInt i
      | w => s.start.addReal w.realValue
    else
      match w with
      | .integer i => s.addInt i
      | w => { s with overflow := false }.addReal w.realValue

/-- The double the sum stands for, with its error term unless that is not finite. -/
def total (s : Sum) : Float :=
  if s.approx then
    if s.error.isInf || s.error.isNaN then s.real else s.real + s.error
  else Float.ofInt s.int

end Sum

/-- `group_concat` over rows of (value, separator). -/
def joinTexts (rows : List (Value × Option Value)) : Value :=
  let parts := rows.filter fun (v, _) => !v.isNull
  match parts with
  | [] => .null
  | (v, _) :: rest =>
    .blob (rest.foldl (fun acc (w, sep) =>
      let sepBytes := match sep with
        | some s => (Format.textBytes s).getD []
        | none => [44]
      acc ++ sepBytes ++ (Format.textBytes w).getD []) ((Format.textBytes v).getD []))

/-- Folds the argument lists of a group's rows by an aggregate of an upper-case name; `coll` is
the collation of its first argument. -/
def aggregate (key : String) (coll : Collation) (rows : List (List Arg)) : Except String Value :=
  let first (r : List Arg) : Value := (r.head?.map (·.value)).getD .null
  match key with
  | "COUNT" =>
    .ok (.integer (rows.filter fun r => r.isEmpty || !(first r).isNull).length)
  | "SUM" =>
    let s := rows.foldl (fun (s : Sum) r => s.step (first r)) ({} : Sum)
    if s.count == 0 then .ok .null
    else if s.approx then
      if s.overflow then .error "integer overflow" else .ok (.real s.total)
    else .ok (.integer s.int)
  | "TOTAL" => .ok (.real (rows.foldl (fun s r => s.step (first r)) ({} : Sum)).total)
  | "AVG" =>
    let s := rows.foldl (fun s r => s.step (first r)) ({} : Sum)
    if s.count == 0 then .ok .null else .ok (.real (s.total / Float.ofNat s.count))
  | "MIN" | "MAX" =>
    let isMax := key == "MAX"
    .ok ((rows.foldl (fun (best : Option Value) r =>
      let v := first r
      if v.isNull then best
      else
        match best with
        | none => some v
        | some b =>
          let c := b.order coll v
          if (isMax && c == .lt) || (!isMax && c == .gt) then some v else best) none).getD .null)
  | "GROUP_CONCAT" | "STRING_AGG" =>
    match joinTexts (rows.map fun r => (first r, (r[1]?).map (·.value))) with
    | .blob b => .ok (.text (Value.bytesText b))
    | v => .ok v
  | "JSON_GROUP_ARRAY" =>
    (rows.mapM fun r => jsonOf (r.headD default)).map fun ns => .text (Json.Node.array ns).render
  | "JSON_GROUP_OBJECT" =>
    (rows.filterMapM fun r =>
      match first r with
      | .null => pure none
      | k => do
        let w ← jsonOf (r.getD 1 default)
        pure (some (Json.escape k.asText, w))).map fun ms => .text (Json.Node.object ms).render
  | _ => .error ("no such function: " ++ key)

/-- Which row of a group the bare columns of a query with a single `min` or `max` come from:
the row of the first best value, or the last row while all values were null. -/
def extremeRow (isMax : Bool) (coll : Collation) (values : List Value) : Option Nat :=
  (values.zipIdx.foldl (fun (acc : Option Value × Option Nat) (v, i) =>
    match acc.1 with
    | none => if v.isNull then (none, some i) else (some v, some i)
    | some b =>
      if v.isNull then acc
      else
        let c := b.order coll v
        if (isMax && c == .lt) || (!isMax && c == .gt) then (some v, some i) else acc)
    (none, none)).2

end Function

end Sql

end TelemetryBridge
