import TelemetryBridge.Decimal.Shortest
import TelemetryBridge.Text.Bytes

/-!
# Writing a double's shortest decimal

The texts of a number that the bridge writes differ only in layout; the digits are always the
shortest decimal of `Decimal.shortest`. Three layouts occur:

* *positional*: all digits with a decimal point where it falls, zeros filled in, never an
  exponent (`0.000000025`, `1000000000000000000000`);
* *scientific*: one digit, the rest after a point, then `e`, a sign and at least two exponent
  digits (`1.792324802e+09`);
* *general*: scientific when the decimal exponent is below `-4` or at least `6`, positional
  otherwise.

On top of these sit the three number formats of the bridge's outputs: `wireNumber` (frames and
payloads: positional, a `.0` added to a whole number, `0.0` for what is not finite),
`jsonNumber` (documents: positional between `1e-6` and `1e21`, scientific outside with the
exponent's leading zero dropped) and `gaugeNumber` (the metrics text: general).
-/

namespace TelemetryBridge

namespace Decimal

/-- The digit characters of a decimal, as bytes. -/
def digitBytes (d : Decimal) : Bytes := Bytes.ofNat d.digits

/-- The position of the decimal point counted from the first digit: the value is
`0.d₁d₂… · 10^pointPos`. -/
def pointPos (d : Decimal) : Int := (d.digitBytes.length : Int) + d.exp

/-- The ASCII zero digit. -/
def zeroByte : UInt8 := 48

/-- Positional text of a nonnegative decimal (without sign). -/
def positional (d : Decimal) : Bytes :=
  if d.digits = 0 then [zeroByte]
  else
    let ds := d.digitBytes
    let n := ds.length
    let dp := d.pointPos
    if dp ≤ 0 then [zeroByte, 46] ++ List.replicate (-dp).toNat zeroByte ++ ds
    else if dp < n then ds.take dp.toNat ++ [46] ++ ds.drop dp.toNat
    else ds ++ List.replicate (dp.toNat - n) zeroByte

/-- Scientific text of a nonnegative decimal (without sign): one digit, the others after a
point, `e`, the exponent's sign and at least two exponent digits. -/
def scientific (d : Decimal) : Bytes :=
  let ds := if d.digits = 0 then [zeroByte] else d.digitBytes
  let x : Int := if d.digits = 0 then 0 else d.pointPos - 1
  let mant := match ds with
    | [] => [zeroByte]
    | [c] => [c]
    | c :: rest => c :: 46 :: rest
  let xs := Bytes.ofNat x.natAbs
  let xs := if xs.length < 2 then zeroByte :: xs else xs
  mant ++ [101, if x < 0 then 45 else 43] ++ xs

/-- General text: scientific when the decimal exponent is below `-4` or at least `6`. -/
def general (d : Decimal) : Bytes :=
  let x := d.pointPos - 1
  if d.digits ≠ 0 ∧ (x < -4 ∨ x ≥ 6) then scientific d else positional d

end Decimal

namespace Binary

/-- The shortest decimal of a finite magnitude (zero for zero). -/
def decimal (mag : Nat) : Decimal := if mag = 0 then ⟨0, 0⟩ else Decimal.shortest mag

/-- A sign written before a layout. -/
def signed (neg : Bool) (body : Bytes) : Bytes := if neg then 45 :: body else body

/-- Positional shortest text of a finite double (sign kept, also for zero). -/
def positionalText (neg : Bool) (mag : Nat) : Bytes := signed neg (decimal mag).positional

/-- The magnitude of the double nearest to `10^-6`, which lies just below `10^-6`. -/
def microMag : Nat := (nearest 1 1000000).getD 0

/-- Whether a magnitude is below the double nearest to `10^-6`: that double itself, though
below `10^-6`, is not. -/
def belowMicro (mag : Nat) : Bool := mag < microMag

/-- Whether a magnitude is at least `10^21`, compared exactly. -/
def atLeastZetta (mag : Nat) : Bool := mag ≥ 10 ^ 21 * 2 ^ 1074

/-- Document text of a finite double: positional from the double nearest `10^-6` up to below
`10^21`, scientific
outside with a one-digit negative exponent written without its leading zero (`1e-7`,
`1e+21`). Zero is `0` (or `-0`). -/
def documentText (neg : Bool) (mag : Nat) : Bytes :=
  if mag ≠ 0 ∧ (belowMicro mag ∨ atLeastZetta mag) then
    let t := (decimal mag).scientific
    let t := match t.reverse with
      | d :: 48 :: 45 :: 101 :: rest => (d :: 45 :: 101 :: rest).reverse
      | _ => t
    signed neg t
  else positionalText neg mag

end Binary

/-- The wire text of a number in frames and payloads: the positional shortest decimal, with
`.0` added when it has no point; not-a-number and infinities are written `0.0`. -/
def wireNumber (x : Float) : Bytes :=
  match Binary.ofFloat x with
  | .finite neg mag =>
    let t := Binary.positionalText neg mag
    if t.contains 46 then t else t ++ [46, 48]
  | _ => [48, 46, 48]

/-- The document text of a finite number (`none` for not-a-number and infinities, which a
document cannot hold). -/
def jsonNumber? (x : Float) : Option Bytes :=
  match Binary.ofFloat x with
  | .finite neg mag => some (Binary.documentText neg mag)
  | _ => none

/-- The metrics text of a sample value: general layout of the shortest decimal, with `NaN`,
`+Inf` and `-Inf` for what is not finite, and `0` for either zero. -/
def gaugeNumber (x : Float) : Bytes :=
  match Binary.ofFloat x with
  | .finite neg mag => if mag = 0 then [48] else Binary.signed neg (Binary.decimal mag).general
  | .nan => Bytes.ofString "NaN"
  | .inf neg => Bytes.ofString (if neg then "-Inf" else "+Inf")

end TelemetryBridge
