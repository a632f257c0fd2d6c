import TelemetryBridge.Time.Instant

/-!
# Timestamps written as text

A timestamp is an instant with the offset from UTC it was written at. As text it is read in one
of these layouts:

* `YYYY-MM-DD`;
* `YYYY-MM-DD hh:mm`;
* `YYYY-MM-DD hh:mm:ss`, with an optional fraction of a second (`.` or `,` and digits, of which
  the first nine count) and an optional offset `±hh:mm`;

where a `T` may stand for the blank and a run of blanks counts as one, the hour has one or two
digits and every other field exactly its width. The month must lie in 1 to 12, the day within the month, the hour below 24,
the minute and second below 60, and the offset's hours at most 24 and its minutes at most 60.

A timestamp is written in RFC 3339 with the fraction of a second to nine digits, trailing zeros
dropped, and its offset, `Z` for none.

Main definitions: `Stamp`, `Stamp.read`, `Stamp.text`.
-/

namespace TelemetryBridge

/-- An instant with the offset from UTC, in seconds, it is shown at. -/
structure Stamp where
  instant : Instant
  offset : Int := 0
  deriving Repr, DecidableEq, Inhabited

namespace Stamp

/-- Whether a year of the proleptic Gregorian calendar is a leap year. -/
def leapYear (y : Int) : Bool := y % 4 == 0 && (y % 100 != 0 || y % 400 == 0)

/-- The number of days of a month (1 to 12) in a year. -/
def daysIn (y : Int) (m : Nat) : Nat :=
  if m == 2 then (if leapYear y then 29 else 28)
  else if m == 4 || m == 6 || m == 9 || m == 11 then 30
  else 31

/-- The day number, counted from `1970-01-01`, of a date: the inverse of `Instant.civil`. -/
def dayNumber (y : Int) (m d : Nat) : Int :=
  let y' := if m ≤ 2 then y - 1 else y
  let era := y' / 400
  let yoe := y' - era * 400
  let mp : Nat := if m > 2 then m - 3 else m + 9
  let doy : Int := ((153 * mp + 2) / 5 + d - 1 : Nat)
  era * 146097 + yoe * 365 + yoe / 4 - yoe / 100 + doy - 719468

/-- The value of decimal digits. -/
def digitsValue (ds : List Char) : Nat := ds.foldl (fun n c => 10 * n + (c.toNat - 48)) 0

/-- Reads exactly `n` decimal digits. -/
def fixed (n : Nat) (cs : List Char) : Option (Nat × List Char) :=
  let ds := cs.take n
  if ds.length == n && ds.all Char.isDigit then some (digitsValue ds, cs.drop n) else none

/-- Reads one or two decimal digits. -/
def upToTwo (cs : List Char) : Option (Nat × List Char) :=
  match cs with
  | a :: b :: rest =>
    if a.isDigit && b.isDigit then some (digitsValue [a, b], rest)
    else if a.isDigit then some (digitsValue [a], b :: rest)
    else none
  | [a] => if a.isDigit then some (digitsValue [a], []) else none
  | [] => none

/-- Reads a character that must come next. -/
def mark (c : Char) : List Char → Option (List Char)
  | d :: rest => if c == d then some rest else none
  | [] => none

/-- Reads an optional fraction of a second: its nanoseconds, from the first nine digits. -/
def fraction (cs : List Char) : Nat × List Char :=
  match cs with
  | p :: d :: rest =>
    if (p == '.' || p == ',') && d.isDigit then
      let ds := d :: rest.takeWhile Char.isDigit
      let nine := ds.take 9
      (digitsValue nine * 10 ^ (9 - nine.length), rest.dropWhile Char.isDigit)
    else (0, cs)
  | _ => (0, cs)

/-- Reads an optional offset `±hh:mm`, in seconds. -/
def zone (cs : List Char) : Option (Int × List Char) :=
  match cs with
  | [] => some (0, [])
  | s :: rest =>
    if s == '+' || s == '-' then do
      let (h, r) ← fixed 2 rest
      let r ← mark ':' r
      let (m, r) ← fixed 2 r
      if h > 24 || m > 60 then none
      else
        let secs : Int := ((h * 60 + m) * 60 : Nat)
        some (if s == '-' then -secs else secs, r)
    else none

/-- Reads a timestamp in one of its layouts. -/
def read (s : String) : Option Stamp := do
  let cs := s.toList
  let (year, r) ← fixed 4 cs
  let r ← mark '-' r
  let (month, r) ← fixed 2 r
  let r ← mark '-' r
  let (day, r) ← fixed 2 r
  if month < 1 || month > 12 || day < 1 || day > daysIn year month then none
  let days := dayNumber year month day
  let (clock, nanos, offset) ← match r with
    | [] => some ((0 : Nat), (0 : Nat), (0 : Int))
    | sep :: r =>
      if sep != ' ' && sep != 'T' then none
      else do
        let r := if sep == ' ' then r.dropWhile (· == ' ') else r
        let (hour, r) ← upToTwo r
        let r ← mark ':' r
        let (minute, r) ← fixed 2 r
        if hour ≥ 24 || minute ≥ 60 then none
        match r with
        | [] => some (hour * 3600 + minute * 60, 0, 0)
        | r =>
          let r ← mark ':' r
          let (second, r) ← fixed 2 r
          if second ≥ 60 then none
          let (nanos, r) := fraction r
          let (offset, r) ← zone r
          if !r.isEmpty then none
          some (hour * 3600 + minute * 60 + second, nanos, offset)
  some { instant := ⟨((days * 86400 + clock - offset) * 1000000000 + nanos)⟩, offset }

/-- The nine digits of a fraction of a second with trailing zeros dropped, after a point;
nothing for a whole second. -/
def fractionText (nanos : Nat) : String :=
  if nanos == 0 then ""
  else "." ++ String.ofList ((Instant.padded 9 nanos).toList.reverse.dropWhile (· == '0')).reverse

/-- The RFC 3339 text of a timestamp, at its offset, to the nanosecond. -/
def text (t : Stamp) : String :=
  let shifted := t.instant.ns + t.offset * 1000000000
  let secs := shifted / 1000000000
  let nanos := (shifted % 1000000000).toNat
  let (year, month, day) := Instant.civil (secs / 86400)
  let inDay := (secs % 86400).toNat
  let zoneText :=
    if t.offset == 0 then "Z"
    else
      let a := t.offset.natAbs
      (if t.offset < 0 then "-" else "+") ++ Instant.padded 2 (a / 3600) ++ ":" ++
        Instant.padded 2 (a / 60 % 60)
  Instant.yearText year ++ "-" ++ Instant.padded 2 month ++ "-" ++ Instant.padded 2 day ++ "T" ++
    Instant.padded 2 (inDay / 3600) ++ ":" ++ Instant.padded 2 (inDay / 60 % 60) ++ ":" ++
    Instant.padded 2 (inDay % 60) ++ fractionText nanos ++ zoneText

/-- The zero timestamp, `0001-01-01T00:00:00Z`. -/
def zero : Stamp := { instant := ⟨dayNumber 1 1 1 * 86400 * 1000000000⟩ }

end Stamp

end TelemetryBridge
