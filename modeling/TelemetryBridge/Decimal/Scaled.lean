/-!
# Leading digits of a double by double-double scaling

The database prints a double with a given number of digits by reading its leading decimal
digits off a 64-bit integer. The double is multiplied by powers of ten in double-double
arithmetic (a pair of doubles whose sum carries about 106 bits, multiplied with Dekker's exact
products) until its high part lies between about `9.2 · 10^17` and `9.2 · 10^18`; the two parts,
each cut toward zero, then add up to an integer of eighteen or nineteen digits. Those digits are
rounded half up to the number asked for (never more than a given maximum), and trailing zeros
are dropped.

The rounding target is a count of significant digits when positive; when zero or negative it
counts digits after the decimal point (`0` rounds to a whole number, `-2` to hundredths).

Main definitions: `Decimal.Scaled`, `Decimal.Scaled.ofFloat`.
-/

namespace TelemetryBridge

namespace Decimal

/-- The decimal digits of a double: a special value (an infinity, or not a number), or a sign,
significant digits and the position of the decimal point (the number of digits before it, so
`0.5` has digits `5` at point `0` and `12.5` has digits `125` at point `2`). -/
inductive Scaled where
  | infinite (negative : Bool)
  | notANumber
  | digits (negative : Bool) (ds : List Char) (point : Int)
  deriving Repr, Inhabited

namespace Scaled

/-- The high half of a double: its 26 low fraction bits cleared, so that products of two high
halves are exact. -/
def highHalf (x : Float) : Float := Float.ofBits (x.toBits &&& 0xfffffffffc000000)

/-- Multiplies a double-double by a double-double constant given as its high part and a
correction: Dekker's product, renormalised into a high part and a low part. -/
def dekkerMul (x : Float × Float) (y yy : Float) : Float × Float :=
  let hx := highHalf x.1
  let tx := x.1 - hx
  let hy := highHalf y
  let ty := y - hy
  let p := hx * hy
  let q := hx * ty + tx * hy
  let c := p + q
  let cc := p - c + q + tx * ty
  let cc := x.1 * yy + x.2 * y + cc
  let h := c + cc
  (h, c - h + cc)

/-- `10^-100`, `10^-10`, `10^-1`, `10^100`, `10^10` and `10` as doubles, with the corrections
that make them exact to double-double precision. -/
def tenToMinus100 : Float × Float := (Float.ofBits 0x2b2bff2ee48e0530, Float.ofBits 0xa7b42a68781d46c4)
def tenToMinus10 : Float × Float := (Float.ofBits 0x3ddb7cdfd9d7bdbb, Float.ofBits 0xba720a5465df8d2c)
def tenToMinus1 : Float × Float := (Float.ofBits 0x3fb999999999999a, Float.ofBits 0xbc5999999999999a)
def tenTo100 : Float × Float := (Float.ofBits 0x54b249ad2594c37d, Float.ofBits 0xd134f4d87b3b31f4)
def tenTo10 : Float × Float := (Float.ofBits 0x4202a05f20000000, 0)
def tenTo1 : Float × Float := (Float.ofBits 0x4024000000000000, 0)

/-- Multiplies by a constant while the high part stays above (`above`) or below a bound, adding
`step` to the decimal exponent each time; `fuel` bounds the steps. -/
def scaleWhile (above : Bool) (bound : Float) (k : Float × Float) (step : Int) :
    Nat → (Float × Float) × Int → (Float × Float) × Int
  | 0, acc => acc
  | fuel + 1, (x, e) =>
    if (if above then x.1 > bound else x.1 < bound) then
      scaleWhile above bound k step fuel (dekkerMul x k.1 k.2, e + step)
    else (x, e)

/-- A positive finite double scaled into `[9.2 · 10^17, 9.2 · 10^18]` as a double-double, with
the power of ten taken out. -/
def scale (r : Float) : (Float × Float) × Int :=
  let start : (Float × Float) × Int := ((r, 0), 0)
  if r > Float.ofBits 0x43dfffffffffffff then
    let s := scaleWhile true (Float.ofBits 0x58a249ad2594c37c) tenToMinus100 100 400 start
    let s := scaleWhile true (Float.ofBits 0x45f2a05f1fffffff) tenToMinus10 10 400 s
    scaleWhile true (Float.ofBits 0x43dfffffffffffff) tenToMinus1 1 400 s
  else
    let s := scaleWhile false (Float.ofBits 0x2ee665bf1d3e6a8c) tenTo100 (-100) 400 start
    let s := scaleWhile false (Float.ofBits 0x4195fd7fe1796495) tenTo10 (-10) 400 s
    scaleWhile false (Float.ofBits 0x43a9999999999999) tenTo1 (-1) 400 s

/-- The integer a scaled double-double stands for: both parts cut toward zero and added. -/
def leadingInteger (x : Float × Float) : Nat :=
  if x.2 < 0 then x.1.toUInt64.toNat - (-x.2).toUInt64.toNat
  else x.1.toUInt64.toNat + x.2.toUInt64.toNat

/-- Adds one to the last of a list of digits, carrying to the left; the flag tells that the
carry went past the first digit. -/
def increment (ds : List Char) : List Char × Bool :=
  ds.foldr (fun d (acc : List Char × Bool) =>
    if acc.2 then
      if d == '9' then ('0' :: acc.1, true) else (Char.ofNat (d.toNat + 1) :: acc.1, false)
    else (d :: acc.1, false)) ([], true)

/-- Rounds digits to `keep` of them, half up on the next digit. -/
def roundTo (ds : List Char) (point : Int) (keep : Nat) : List Char × Int :=
  let kept := ds.take keep
  if ds.getD keep '0' ≥ '5' then
    let (up, carried) := increment kept
    if carried then ('1' :: up, point + 1) else (up, point)
  else (kept, point)

/-- Drops trailing zeros, keeping one digit. -/
def trimZeros (ds : List Char) : List Char :=
  let t := (ds.reverse.dropWhile (· == '0')).reverse
  if t.isEmpty then ['0'] else t

/-- The digits of a double rounded to `target` (significant digits when positive, digits after
the point otherwise), never keeping more than `most` significant digits. Zero of either sign
has the single digit `0` and no sign. -/
def ofFloat (r : Float) (target : Int) (most : Nat) : Scaled :=
  if r.isNaN then .notANumber
  else if r.isInf then .infinite (r < 0)
  else if r == 0 then .digits false ['0'] 1
  else
    let negative := r < 0
    let (x, e) := scale (if negative then -r else r)
    let ds := (toString (leadingInteger x)).toList
    let point : Int := ds.length + e
    let (ds, point, target) :=
      if target ≤ 0 then
        let t := point - target
        if t == 0 && ds.getD 0 '0' ≥ '5' then ('0' :: ds, point + 1, (1 : Int)) else (ds, point, t)
      else (ds, point, target)
    let (ds, point) :=
      if target > 0 && (target < ds.length || ds.length > most) then
        roundTo ds point (min target.toNat most)
      else (ds, point)
    .digits negative (trimZeros ds) point

end Scaled

end Decimal

end TelemetryBridge
