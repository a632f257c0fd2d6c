import TelemetryBridge.Sql.Value

/-!
# Arithmetic on values

The operators on numbers read their operands as numbers first (see `Value.numeric`): a text or
blob by its leading number, which is an integer when it has neither point nor complete exponent
and fits 64 bits. A null operand makes the result null.

* `+ - *` on two integers give an integer unless the result leaves 64 bits; then, and whenever a
  double takes part, they give the double result of the operands' doubles;
* `/` on integers cuts toward zero; on doubles it divides; division by zero gives null;
* `%` works on the operands' integers (a divisor of `-1` acting as `1`), giving an integer for
  two integers and a double otherwise; a zero divisor gives null;
* a double result that is not a number is null;
* `& | << >> ~` work on the operands' 64-bit integers. A negative shift shifts the other way,
  a shift of 64 or more leaves `0` (or `-1` for a negative number shifted right), and a right
  shift brings in the sign.

A value is *true* when its number is not zero; null is neither true nor false.

Main definitions: `Sql.ArithOp`, `Sql.arith`, `Sql.BitOp`, `Sql.bitwise`, `Sql.Value.truth`.
-/

namespace TelemetryBridge

namespace Sql

/-- The arithmetic operators. -/
inductive ArithOp where
  | add
  | sub
  | mul
  | div
  | rem
  deriving Repr, DecidableEq, Inhabited

/-- A double result, null when it is not a number. -/
def ofReal (x : Float) : Value := if x.isNaN then .null else .real x

/-- The double arithmetic of an operator on two values (`%` on their integers). -/
def realArith (o : ArithOp) (a b : Value) : Value :=
  let p := a.realValue
  let q := b.realValue
  match o with
  | .add => ofReal (p + q)
  | .sub => ofReal (p - q)
  | .mul => ofReal (p * q)
  | .div => if q == 0 then .null else ofReal (p / q)
  | .rem =>
    let i := a.intValue
    let j := b.intValue
    if j == 0 then .null else ofReal (Float.ofInt (i.tmod (if j == -1 then 1 else j)))

/-- An arithmetic operator on two values. -/
def arith (o : ArithOp) (a b : Value) : Value :=
  if a.isNull || b.isNull then .null
  else
    match a.numeric, b.numeric with
    | .integer x, .integer y =>
      let exact : Option Int := match o with
        | .add => some (x + y)
        | .sub => some (x - y)
        | .mul => some (x * y)
        | .div => if y == 0 then some 0 else some (x.tdiv y)
        | .rem => if y == 0 then some 0 else some (x.tmod (if y == -1 then 1 else y))
      if y == 0 && (o == .div || o == .rem) then .null
      else
        match exact with
        | some r => if inRange r then .integer r else realArith o (.integer x) (.integer y)
        | none => .null
    | _, _ => realArith o a b

/-- The bitwise operators. -/
inductive BitOp where
  | and
  | or
  | shiftLeft
  | shiftRight
  deriving Repr, DecidableEq, Inhabited

/-- A 64-bit integer as its two's complement bits. -/
def toBits64 (n : Int) : Nat := (n % 2 ^ 64).toNat

/-- Two's complement bits read as a 64-bit integer. -/
def ofBits64 (u : Nat) : Int := if u ≥ 2 ^ 63 then (u : Int) - 2 ^ 64 else u

/-- Shifts a 64-bit integer left (`left`) or right by a non-negative amount below 64. -/
def shiftBy (left : Bool) (a : Int) (k : Nat) : Int :=
  if left then ofBits64 ((toBits64 a <<< k) % 2 ^ 64)
  else if a ≥ 0 then a / 2 ^ k
  else -((-a - 1) / 2 ^ k) - 1

/-- A bitwise operator on two values. -/
def bitwise (o : BitOp) (a b : Value) : Value :=
  if a.isNull || b.isNull then .null
  else
    let x := a.intValue
    let y := b.intValue
    match o with
    | .and => .integer (ofBits64 (toBits64 x &&& toBits64 y))
    | .or => .integer (ofBits64 (toBits64 x ||| toBits64 y))
    | .shiftLeft | .shiftRight =>
      if y == 0 then .integer x
      else
        let left := (o == .shiftLeft) != (y < 0)
        let k : Nat := if y < 0 then (if y > -64 then (-y).toNat else 64) else y.toNat
        if k ≥ 64 then .integer (if x ≥ 0 || left then 0 else -1)
        else .integer (shiftBy left x k)

/-- The bitwise complement of a value. -/
def bitNot (v : Value) : Value :=
  if v.isNull then .null else .integer (-v.intValue - 1)

/-- The negation of a value: zero minus it. -/
def negate (v : Value) : Value := arith .sub (.integer 0) v

namespace Value

/-- The truth of a value: `none` for null, else whether its number is not zero. -/
def truth : Value → Option Bool
  | .null => none
  | .integer n => some (n != 0)
  | v => some (v.realValue != 0)

/-- A truth as a value. -/
def ofTruth : Option Bool → Value
  | none => .null
  | some b => .integer (if b then 1 else 0)

end Value

/-- The texts of two values joined; null when either is null. -/
def concatValues (a b : Value) : Value :=
  if a.isNull || b.isNull then .null else .text (a.asText ++ b.asText)

end Sql

end TelemetryBridge
