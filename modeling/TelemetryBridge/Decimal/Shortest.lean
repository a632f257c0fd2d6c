import TelemetryBridge.Decimal.Binary

/-!
# The shortest decimal of a double

A positive double `x` is the nearest double to every real in its *rounding interval*: the reals
between the midpoints to its two neighbours, both ends included when `x` has an even
significand (a reader rounds a tie to it) and excluded otherwise. Its shortest decimal is a
decimal `g · 10^p` in that interval with as few significant digits as possible; among the
decimals of that length in the interval it is the one nearest to `x`, an exact tie going to the
even `g`.

The search runs over grid exponents `p` from coarse to fine: on the grid `10^p` the only
candidates are the two grid neighbours of `x`, because the interval is convex and holds `x`.
All comparisons are exact: magnitudes are scaled by `4 · 2^1074` so that the interval ends are
whole numbers.

Main definitions: `Decimal` (digits and exponent), `Decimal.shortest`.
-/

namespace TelemetryBridge

/-- A decimal number `digits · 10^exp`. -/
structure Decimal where
  digits : Nat
  exp : Int
  deriving Repr, DecidableEq, Inhabited

namespace Decimal

/-- `⌊log₁₀ n⌋` for positive `n` (and zero for zero). -/
def log10 (n : Nat) : Nat :=
  if n < 10 then 0 else 1 + log10 (n / 10)
termination_by n
decreasing_by omega

/-- `⌊log₁₀ (n / d)⌋` for positive `n` and `d`. -/
def floorLog10 (n d : Nat) : Int :=
  if d ≤ n then (log10 (n / d) : Int)
  else
    let k := log10 (d / n)
    if d ≤ n * 10 ^ k then -(k : Int) else -((k + 1 : Nat) : Int)

/-- `g · 10^p · den` compared with `b`: the exact comparison of the grid point `g · 10^p` with
the scaled bound `b / den`. -/
def gridCompare (g : Nat) (p : Int) (b den : Nat) : Ordering :=
  if 0 ≤ p then compare (g * 10 ^ p.toNat * den) b
  else compare (g * den) (b * 10 ^ (-p).toNat)

/-- The grid point `⌊v / 10^p⌋` of the scaled value `v / den`. -/
def gridFloor (v den : Nat) (p : Int) : Nat :=
  if 0 ≤ p then v / (den * 10 ^ p.toNat) else v * 10 ^ (-p).toNat / den

/-- The rounding interval of a positive magnitude, scaled by `4`: the value, its lower and
upper end, and whether the ends belong to it. -/
structure Interval where
  value : Nat
  lower : Nat
  upper : Nat
  closed : Bool

/-- The rounding interval of the positive magnitude `mag`, in quarters of the smallest
subnormal. -/
def interval (mag : Nat) : Interval :=
  let s := Binary.spacing mag
  { value := 4 * mag
    lower := 4 * mag - (if Binary.tightBelow mag then s else 2 * s)
    upper := 4 * mag + 2 * s
    closed := (mag / s) % 2 == 0 }

/-- The scale of the interval: values are in units of `2^-1076`. -/
def scale : Nat := 2 ^ 1076

/-- Whether the grid point `g · 10^p` lies in the interval. -/
def Interval.holds (iv : Interval) (g : Nat) (p : Int) : Bool :=
  let lo := gridCompare g p iv.lower scale
  let hi := gridCompare g p iv.upper scale
  if iv.closed then lo != .lt && hi != .gt else lo == .gt && hi == .lt

/-- The grid neighbour of the value on the grid `10^p` that lies in the interval, the nearer
one when both do, and the even one on an exact tie. -/
def Interval.pick (iv : Interval) (p : Int) : Option Nat :=
  let g := gridFloor iv.value scale p
  let down := g > 0 && iv.holds g p
  let up := iv.holds (g + 1) p
  if down && up then
    -- twice the value against the midpoint `(2g + 1) · 10^p` of the two neighbours
    match gridCompare (2 * g + 1) p (2 * iv.value) scale with
    | .gt => some g
    | .lt => some (g + 1)
    | .eq => some (if g % 2 == 0 then g else g + 1)
  else if down then some g
  else if up then some (g + 1)
  else none

/-- Tries the grids `10^p`, `10^(p-1)`, … for at most `fuel` steps. Seventeen significant
digits always suffice for a double, so a start one above the value's decimal exponent and a
fuel of nineteen always end in a hit. -/
def Interval.search (iv : Interval) : Nat → Int → Decimal
  | 0, p => ⟨gridFloor iv.value scale p, p⟩
  | fuel + 1, p =>
    match iv.pick p with
    | some g => ⟨g, p⟩
    | none => iv.search fuel (p - 1)

/-- Removes trailing zeros from the digits, raising the exponent to match. -/
def normalize (d : Decimal) : Decimal :=
  if h : d.digits ≠ 0 ∧ d.digits % 10 = 0 then
    have : d.digits / 10 < d.digits := Nat.div_lt_self (Nat.pos_of_ne_zero h.1) (by decide)
    normalize ⟨d.digits / 10, d.exp + 1⟩
  else d
termination_by d.digits

/-- The shortest decimal of the positive magnitude `mag` (value `mag · 2^-1074`), with no
trailing zero in its digits. -/
def shortest (mag : Nat) : Decimal :=
  let iv := interval mag
  let e := floorLog10 iv.value scale
  normalize (iv.search 19 (e + 1))

end Decimal

end TelemetryBridge
