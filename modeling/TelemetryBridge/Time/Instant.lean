import TelemetryBridge.Time.Duration

/-!
# Instants

An instant is a point on the UTC time line, counted in nanoseconds after
`1970-01-01T00:00:00Z`. The bridge compares instants by the duration between them, held at the
least or greatest 64-bit duration when it does not fit one, writes them in RFC 3339 form to
whole seconds (`2026-10-18T12:00:00Z`, the fraction dropped toward the past), and reports them
as seconds after the epoch in a double.

The calendar is the proleptic Gregorian one. The date of a day number is found by counting
whole eras of 400 years (146097 days each), then years within the era counted from March, so
that the leap day falls at the end of the year.

Main definitions: `Instant`, `Instant.civil`, `Instant.text`, `Instant.unixSeconds`.
-/

namespace TelemetryBridge

/-- A point in time: nanoseconds after the Unix epoch. -/
structure Instant where
  ns : Int
  deriving Repr, DecidableEq, Inhabited

namespace Instant

/-- The instant a number of milliseconds after another. -/
def addMillis (t : Instant) (ms : Int) : Instant := ⟨t.ns + ms * 1000000⟩

/-- The duration from `s` to `t`. -/
def since (t s : Instant) : Duration := ⟨t.ns - s.ns⟩

/-- The duration from `s` to `t` as a signed 64-bit count: the exact difference, or the least or
greatest such count when the difference lies beyond it. -/
def sub (t s : Instant) : Duration := ⟨max (-2 ^ 63) (min (t.ns - s.ns) (2 ^ 63 - 1))⟩

/-- The year, month and day of a day counted from `1970-01-01`. -/
def civil (days : Int) : Int × Nat × Nat :=
  let z := days + 719468
  let era := z / 146097
  let doe := (z - era * 146097).toNat
  let yoe := (doe - doe / 1460 + doe / 36524 - doe / 146096) / 365
  let doy := doe - (365 * yoe + yoe / 4 - yoe / 100)
  let mp := (5 * doy + 2) / 153
  let day := doy - (153 * mp + 2) / 5 + 1
  let month := if mp < 10 then mp + 3 else mp - 9
  let year := (yoe : Int) + era * 400 + (if month ≤ 2 then 1 else 0)
  (year, month, day)

/-- A number in at least `width` digits, zeros in front. -/
def padded (width n : Nat) : String :=
  let s := toString n
  String.ofList (List.replicate (width - s.length) '0') ++ s

/-- A year in at least four digits, with a minus sign before the years before year zero. -/
def yearText (y : Int) : String :=
  if y < 0 then "-" ++ padded 4 y.natAbs else padded 4 y.natAbs

/-- The RFC 3339 text of the instant in UTC, to whole seconds. -/
def text (t : Instant) : String :=
  let secs := t.ns / 1000000000
  let (year, month, day) := civil (secs / 86400)
  let inDay := (secs % 86400).toNat
  yearText year ++ "-" ++ padded 2 month ++ "-" ++ padded 2 day ++ "T" ++
    padded 2 (inDay / 3600) ++ ":" ++ padded 2 (inDay / 60 % 60) ++ ":" ++ padded 2 (inDay % 60) ++
    "Z"

/-- The nanoseconds after the epoch as a signed 64-bit count: outside the years 1678 to 2262
the count wraps around modulo `2^64`. -/
def unixNanos (t : Instant) : Int := (t.ns + 2 ^ 63) % 2 ^ 64 - 2 ^ 63

/-- The seconds after the epoch: the signed 64-bit nanosecond count rounded to the nearest
double, divided by `10^9`. -/
def unixSeconds (t : Instant) : Float := (Binary.ofInt t.unixNanos).toFloat / 1000000000

end Instant

end TelemetryBridge
