/-!
# Doubles as exact numbers

An IEEE-754 double is not a number, an infinity, or a finite number. Every finite double is a
whole multiple of the smallest subnormal `2^-1074`, so a finite double is written here as a
sign and a natural *magnitude* counted in that unit: the double `±mag · 2^-1074`. The number
texts of the library (shortest digits, two fixed places, reading decimal text) all work on
magnitudes in exact natural arithmetic; `Binary.ofFloat` and `Binary.toFloat` are the only
places where a `Float` is taken apart or put together.

Main definitions: `Binary.ofBits` and `Binary.toBits` (the bit layout), `Binary.spacing` (the
distance to the next double), and `Binary.nearest`, which rounds an exact ratio to the nearest
double with ties to the even neighbour, the rounding of every correctly rounded reader.
-/

-- Powers of naturals and integers are the core `Nat.pow` and `Int.pow`, also where a library
-- that gives every monoid its own power is in scope: the exact arithmetic below, and every
-- statement about it, means one thing wherever it is read.
attribute [instance (high)] instPowNat
attribute [default_instance (high + 1)] instPowNat

namespace TelemetryBridge

/-- A double by what it denotes: not a number, an infinity of a sign, or the finite value
`±mag · 2^-1074`. Zero has `mag = 0` and keeps its sign. -/
inductive Binary where
  | nan
  | inf (neg : Bool)
  | finite (neg : Bool) (mag : Nat)
  deriving Repr, DecidableEq, Inhabited

namespace Binary

/-- Magnitudes from this one up overflow: the largest finite double is `(2^53 - 1) · 2^971`,
which is `(2^53 - 1) · 2^2045` smallest subnormals. -/
def overflowMag : Nat := 2 ^ 2098

/-- Reads the bit pattern of a double: a sign bit, eleven exponent bits, fifty-two fraction
bits. An exponent field of all ones is an infinity (zero fraction) or not a number; a zero
exponent field is a subnormal, whose magnitude is the fraction itself. -/
def ofBits (b : UInt64) : Binary :=
  let n := b.toNat
  let neg := decide (n / 2 ^ 63 = 1)
  let biased := n / 2 ^ 52 % 2 ^ 11
  let frac := n % 2 ^ 52
  if biased = 2047 then (if frac = 0 then .inf neg else .nan)
  else if biased = 0 then .finite neg frac
  else .finite neg ((2 ^ 52 + frac) * 2 ^ (biased - 1))

/-- The double a `Float` holds. -/
def ofFloat (x : Float) : Binary := ofBits x.toBits

/-- The distance from a finite magnitude to the next larger double: one smallest subnormal
below `2^53`, and `2^(k-52)` in the binade `[2^k, 2^(k+1))`. -/
def spacing (mag : Nat) : Nat := 2 ^ (Nat.log2 mag - 52)

/-- Whether the gap below a magnitude is half the gap above it: a power of two at the bottom
of a binade that has a smaller binade of normal numbers below it. -/
def tightBelow (mag : Nat) : Bool := mag == 2 ^ Nat.log2 mag && Nat.log2 mag ≥ 53

/-- The bit pattern of a double. Not a number is written with the quiet pattern
`0x7FF8000000000001`; a finite magnitude is expected to be a double, below `overflowMag` and a
multiple of its spacing. -/
def toBits : Binary → UInt64
  | .nan => 0x7FF8000000000001
  | .inf neg => if neg then 0xFFF0000000000000 else 0x7FF0000000000000
  | .finite neg mag =>
    let body :=
      if mag < 2 ^ 52 then mag
      else
        let k := Nat.log2 mag
        (k - 51) * 2 ^ 52 + (mag / 2 ^ (k - 52) - 2 ^ 52)
    UInt64.ofNat ((if neg then 2 ^ 63 else 0) + body)

/-- The `Float` of a double. -/
def toFloat (x : Binary) : Float := Float.ofBits x.toBits

/-- Whether `n / d < 2^t`, for a whole exponent `t` of either sign. -/
def ratioBelowPow (n d : Nat) (t : Int) : Bool :=
  if 0 ≤ t then n < d * 2 ^ t.toNat else n * 2 ^ (-t).toNat < d

/-- `⌊log₂ (n / d)⌋` for positive `n` and `d`. -/
def floorLog2 (n d : Nat) : Int :=
  let t : Int := (Nat.log2 n : Int) - (Nat.log2 d : Int)
  if ratioBelowPow n d t then t - 1 else t

/-- Rounds `q + r/den` (with `r < den`) to a whole number, a half going to the even one. -/
def roundHalfEven (q r den : Nat) : Nat :=
  if 2 * r > den ∨ (2 * r = den ∧ q % 2 = 1) then q + 1 else q

/-- The magnitude of the double nearest to the exact ratio `n / d` (in plain units, not
smallest subnormals), a tie going to the neighbour with an even significand; `none` when the
ratio rounds past the largest finite double. A zero denominator reads as zero. -/
def nearest (n d : Nat) : Option Nat :=
  if n = 0 ∨ d = 0 then some 0
  else
    let x := n * 2 ^ 1074
    let k := floorLog2 x d
    let step := 2 ^ (k - 52).toNat
    let q := x / (d * step)
    let r := x % (d * step)
    let mag := roundHalfEven q r (d * step) * step
    if mag ≥ overflowMag then none else some mag

/-- The double nearest to an integer, a tie going to the even significand. -/
def ofInt (n : Int) : Binary :=
  match nearest n.natAbs 1 with
  | some m => .finite (n < 0) m
  | none => .inf (n < 0)

end Binary

end TelemetryBridge
