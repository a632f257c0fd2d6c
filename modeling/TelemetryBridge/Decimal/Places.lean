import TelemetryBridge.Decimal.Binary

/-!
# Two fixed decimal places

Pressure, temperature and current travel with two decimal places. A value is rounded to the
nearest hundredth of its *exact* binary value, an exact half going to the even hundredth (so
`0.125` becomes `0.12` and `0.375` becomes `0.38`, while `1.005`, which is slightly below
`1.005` as a double, becomes `1`), and the hundredths are then read back as the nearest double.
The sign is kept, also when the result is zero (`-0.001` becomes `-0`); not-a-number and the
infinities pass unchanged. Doubles from `2^53` up are whole numbers and come back unchanged.

A number is cut to a signed 64-bit integer toward zero; a number outside that range, and one
that is not a number, gives the least 64-bit integer, the conversion's out-of-range value.

Main definitions: `roundPlaces2`, `wholeInt64`.
-/

namespace TelemetryBridge

namespace Binary

/-- The whole number of hundredths nearest to the magnitude `mag · 2^-1074`, a half going to
the even one. -/
def hundredths (mag : Nat) : Nat :=
  let num := mag * 100
  let den := 2 ^ 1074
  roundHalfEven (num / den) (num % den) den

/-- A double rounded to two decimal places and read back. -/
def roundPlaces2 : Binary → Binary
  | .finite neg mag =>
    match nearest (hundredths mag) 100 with
    | some m => .finite neg m
    | none => .inf neg
  | x => x

end Binary

/-- The whole part of a double, toward zero, as a signed 64-bit integer; the least such
integer when it is out of range or not a number. -/
def wholeInt64 (x : Float) : Int :=
  match Binary.ofFloat x with
  | .finite neg mag =>
    let q : Int := mag / 2 ^ 1074
    let v := if neg then -q else q
    if -(2 ^ 63 : Int) ≤ v ∧ v < 2 ^ 63 then v else -(2 ^ 63)
  | _ => -(2 ^ 63)

/-- A number rounded to two decimal places of its exact value (ties to even) and read back as
the nearest double; not-a-number and infinities pass unchanged. -/
def roundPlaces2 (x : Float) : Float :=
  match Binary.ofFloat x with
  | .finite neg mag => (Binary.roundPlaces2 (.finite neg mag)).toFloat
  | _ => x

end TelemetryBridge
