import TelemetryBridge.Decimal.Binary

/-!
# Durations

A duration is a signed 64-bit count of nanoseconds.

Its text names hours, minutes and seconds (`1h0m0s`, `1m30s`, `1.5s`); below one second it uses
the largest of milliseconds, microseconds (`µs`) and nanoseconds that fits (`250ms`, `1ns`).
Fractions drop their trailing zeros, zero is `0s`, and a negative duration has a minus sign.

A duration is read from a sequence of decimal numbers with units (`ns`, `us`, `µs`, `ms`, `s`,
`m`, `h`), such as `1h30m` or `-1.5s`, after an optional sign; `0` alone is zero. The whole
part of each number is exact; its fraction is scaled to the unit in double arithmetic and cut
toward zero. A text that is empty, lacks a unit, names an unknown unit, or exceeds the 64-bit
range is refused.

Main definitions: `Duration`, `Duration.text`, `Duration.parse?`.
-/

namespace TelemetryBridge

/-- A signed count of nanoseconds. -/
structure Duration where
  ns : Int
  deriving Repr, DecidableEq, Inhabited

namespace Duration

/-- One second. -/
def second : Duration := ⟨1000000000⟩

/-- A whole number of milliseconds. -/
def ofMillis (ms : Int) : Duration := ⟨ms * 1000000⟩

/-- The fraction of `v / 10^prec` as text (`.5`, `.25`), trailing zeros dropped and no point
when it is zero, with the whole part. -/
def fraction (v prec : Nat) : String × Nat :=
  let frac := v % 10 ^ prec
  let digits := (toString (frac + 10 ^ prec)).toList.drop 1
  let digits := (digits.reverse.dropWhile (· == '0')).reverse
  (if digits.isEmpty then "" else "." ++ String.ofList digits, v / 10 ^ prec)

/-- The text of a duration. -/
def text (d : Duration) : String :=
  let u := d.ns.natAbs
  let body :=
    if u = 0 then "0s"
    else if u < 1000000000 then
      let (unit, prec) :=
        if u < 1000 then ("ns", 0) else if u < 1000000 then ("µs", 3) else ("ms", 6)
      let (frac, whole) := fraction u prec
      toString whole ++ frac ++ unit
    else
      let (frac, secs) := fraction u 9
      let s := toString (secs % 60) ++ frac ++ "s"
      let mins := secs / 60
      if mins = 0 then s
      else
        let s := toString (mins % 60) ++ "m" ++ s
        let hours := mins / 60
        if hours = 0 then s else toString hours ++ "h" ++ s
  if d.ns < 0 then "-" ++ body else body

/-- The length of a unit in nanoseconds. -/
def unitLength (u : String) : Option Nat :=
  if u == "ns" then some 1
  else if u == "us" || u == "µs" || u == "μs" then some 1000
  else if u == "ms" then some 1000000
  else if u == "s" then some 1000000000
  else if u == "m" then some 60000000000
  else if u == "h" then some 3600000000000
  else none

/-- A decimal digit character. -/
def isDigitChar (c : Char) : Bool := '0' ≤ c && c ≤ '9'

/-- The whole part of a number: its digits' value, `none` past `2^63`. -/
def leadingInt (ds : List Char) : Option Nat :=
  ds.foldl (fun acc c => acc.bind fun x =>
    if x > 2 ^ 63 / 10 then none
    else
      let y := 10 * x + (c.toNat - 48)
      if y > 2 ^ 63 then none else some y) (some 0)

/-- The fraction digits of a number as a whole number and its scale, as a double power of ten;
digits past the 64-bit precision are ignored. -/
def leadingFraction (ds : List Char) : Nat × Float :=
  let (x, scale, _) := ds.foldl (fun (x, scale, full) c =>
    if full then (x, scale, true)
    else if x > (2 ^ 63 - 1) / 10 then (x, scale, true)
    else
      let y := 10 * x + (c.toNat - 48)
      if y > 2 ^ 63 then (x, scale, true) else (y, scale * 10, false)) (0, (1 : Float), false)
  (x, scale)

/-- Adds the numbers with units of a duration text to `total`. -/
def terms : Nat → List Char → Nat → Option Nat
  | 0, _, total => some total
  | _, [], total => some total
  | fuel + 1, s, total => do
    let c ← s.head?
    if !(c == '.' || isDigitChar c) then none
    let whole := s.takeWhile isDigitChar
    let s := s.drop whole.length
    let v ← leadingInt whole
    let (fracDigits, s) := match s with
      | '.' :: r => (some (r.takeWhile isDigitChar), r.dropWhile isDigitChar)
      | r => (none, r)
    if whole.isEmpty && (fracDigits.map List.isEmpty).getD true then none
    let unitChars := s.takeWhile fun c => !(c == '.' || isDigitChar c)
    let s := s.drop unitChars.length
    if unitChars.isEmpty then none
    let unit ← unitLength (String.ofList unitChars)
    if v > 2 ^ 63 / unit then none
    let v := v * unit
    let (f, scale) := leadingFraction (fracDigits.getD [])
    let v := if f > 0 then
        v + ((Binary.ofInt f).toFloat * ((Binary.ofInt unit).toFloat / scale)).toUInt64.toNat
      else v
    if v > 2 ^ 63 then none
    let total := total + v
    if total > 2 ^ 63 then none
    terms fuel s total

/-- Reads a duration text. -/
def parse? (s : String) : Option Duration := do
  let cs := s.toList
  let (neg, cs) := match cs with
    | '-' :: r => (true, r)
    | '+' :: r => (false, r)
    | r => (false, r)
  if cs == ['0'] then return ⟨0⟩
  if cs.isEmpty then none
  let d ← terms (cs.length + 1) cs 0
  if neg then return ⟨-(d : Int)⟩
  if d > 2 ^ 63 - 1 then none
  return ⟨d⟩

end Duration

end TelemetryBridge
