import TelemetryBridge.Sql.Function.Format

/-!
# Dates and times

The date functions (`date`, `time`, `datetime`, `julianday`, `unixepoch`, `strftime`,
`timediff`) read a *time value* and apply *modifiers* to it. A moment is kept as a Julian day
number counted in milliseconds, alongside the calendar date and the clock time it stands for;
each side is computed from the other when it is needed, in the proleptic Gregorian calendar.

A time value is a text `YYYY-MM-DD`, optionally followed (after blanks or `T`) by a time
`HH:MM[:SS[.fff]]` and a zone (`Z`, or `±HH:MM`, which is subtracted); a time alone, on
2000-01-01; `now`; or a number, read as a Julian day number unless a modifier says otherwise.
A value that reads as none of these, or that leaves the years 4713 BC to 9999, gives null.

Modifiers: `±N days | hours | minutes | seconds | months | years`, `±HH:MM[:SS[.fff]]`,
`±YYYY-MM-DD [HH:MM]`, `start of day | month | year`, `weekday N`, `unixepoch`, `julianday`,
`auto`, `subsec`, `ceiling`, `floor`, and `localtime` and `utc`, which leave the moment as it is
(the zone of the clock is UTC). The current moment is a fixed one, for the functions are pure.

Main definitions: `Sql.Moment`, `Sql.Moment.ofArgs`, `Sql.strftime`, `Sql.timediff`.
-/

namespace TelemetryBridge

namespace Sql

/-- A moment with the parts known of it: the Julian day number in milliseconds, the calendar
date, the clock time and zone, and how the moment was given. -/
structure Moment where
  jd : Int := 0
  year : Int := 2000
  month : Int := 1
  day : Int := 1
  hour : Int := 0
  minute : Int := 0
  second : Float := 0
  zone : Int := 0
  /-- A number given as the time value, not read yet as a day number or a count of seconds. -/
  raw : Bool := false
  validJd : Bool := false
  validDate : Bool := false
  validTime : Bool := false
  subsec : Bool := false
  isError : Bool := false
  /-- Days past the end of the month, for `floor`. -/
  overflow : Int := 0
  deriving Inhabited

namespace Moment

/-- A double cut toward zero. -/
def trunc (x : Float) : Int := x.toInt64.toInt

/-- Whether a day number in milliseconds lies in the years 4713 BC to 9999. -/
def validDay (jd : Int) : Bool := 0 ≤ jd && jd ≤ 464269060799999

/-- The day number from the calendar date and clock time; dates outside the years -4713 to
9999 are errors. -/
def withJd (p : Moment) : Moment :=
  if p.validJd then p
  else
    let (y, m, d) := if p.validDate then (p.year, p.month, p.day) else (2000, 1, 1)
    if y < -4713 || y > 9999 || p.raw then { p with isError := true }
    else
      let (y, m) := if m ≤ 2 then (y - 1, m + 12) else (y, m)
      let a := (y + 4800).tdiv 100
      let b := 38 - a + a.tdiv 4
      let x1 := (36525 * (y + 4716)).tdiv 100
      let x2 := (306001 * (m + 1)).tdiv 10000
      let jd := (2 * (x1 + x2 + d + b) - 3049) * 43200000
      let p := { p with jd := jd, validJd := true }
      if p.validTime then
        let jd := p.jd + p.hour * 3600000 + p.minute * 60000 + trunc (p.second * 1000 + 0.5)
        if p.zone != 0 then
          { p with jd := jd - p.zone * 60000, validDate := false, validTime := false, zone := 0 }
        else { p with jd := jd }
      else p

/-- The calendar date from the day number. -/
def withDate (p : Moment) : Moment :=
  if p.validDate then p
  else if !p.validJd then { p with year := 2000, month := 1, day := 1, validDate := true }
  else if !validDay p.jd then { p with isError := true }
  else
    let z := (p.jd + 43200000).tdiv 86400000
    let alpha := trunc ((Float.ofInt z + 32044.75) / 36524.25) - 52
    let a := z + 1 + alpha - (alpha + 100).tdiv 4 + 25
    let b := a + 1524
    let c := trunc ((Float.ofInt b - 122.1) / 365.25)
    let d := (36525 * (c % 32768)).tdiv 100
    let e := trunc (Float.ofInt (b - d) / 30.6001)
    let x1 := trunc (30.6001 * Float.ofInt e)
    let day := b - d - x1
    let month := if e < 14 then e - 1 else e - 13
    let year := if month > 2 then c - 4716 else c - 4715
    { p with year, month, day, validDate := true }

/-- The clock time from the day number. -/
def withTime (p : Moment) : Moment :=
  if p.validTime then p
  else
    let p := p.withJd
    let dayMs := (p.jd + 43200000) % 86400000
    let dayMin := dayMs.tdiv 60000
    { p with second := Float.ofInt (dayMs % 60000) / 1000.0, minute := dayMin % 60,
             hour := dayMin.tdiv 60, raw := false, validTime := true }

/-- Both the calendar date and the clock time. -/
def withDateTime (p : Moment) : Moment := p.withDate.withTime

/-- Forgets the calendar date, clock time and zone, keeping the day number. -/
def clearParts (p : Moment) : Moment :=
  { p with validDate := false, validTime := false, zone := 0 }

/-- Records how far the day of the month runs past the month's end. -/
def withOverflow (p : Moment) : Moment :=
  let long := [1, 3, 5, 7, 8, 10, 12].contains p.month.toNat && p.month > 0
  let overflow :=
    if p.day ≤ 28 then 0
    else if long then 0
    else if p.month != 2 then (if p.day == 31 then 1 else 0)
    else if p.year % 4 != 0 || (p.year % 100 == 0 && p.year % 400 != 0) then p.day - 28
    else p.day - 29
  { p with overflow }

/-- A number given as a time value: a day number when it is one. -/
def ofNumber (r : Float) : Moment :=
  let p : Moment := { second := r, raw := true }
  if r ≥ 0 && r < 5373484.5 then { p with jd := trunc (r * 86400000.0 + 0.5), validJd := true }
  else p

/-- The current moment, which is fixed: 2000-01-01 00:00:00. -/
def now : Moment := { jd := 211813444800000, validJd := true }

end Moment

/-- Whether a character is a blank of date text. -/
def isDateSpace (c : Char) : Bool := c == ' ' || ('\t' ≤ c && c ≤ '\r')

/-- Reads fixed-width fields of digits: for each its width, least and greatest value, and the
character that must follow (`none` when anything may). -/
def fields : List (Nat × Int × Int × Option Char) → List Char → Option (List Int)
  | [], _ => some []
  | (w, lo, hi, sep) :: more, cs =>
    let ds := cs.take w
    if ds.length == w && ds.all isDigitChar then
      let v : Int := digitsNat ds
      if v < lo || v > hi then none
      else
        let rest := cs.drop w
        match sep with
        | some s =>
          match rest with
          | c :: after => if c == s then (fields more after).map (v :: ·) else none
          | [] => none
        | none => (fields more rest).map (v :: ·)
    else none

/-- Reads a zone after a time: `Z`, or `±HH:MM`, with blanks around; `none` when something else
follows. -/
def readZone (p : Moment) (cs : List Char) : Option Moment :=
  let cs := cs.dropWhile isDateSpace
  match cs with
  | [] => some { p with zone := 0 }
  | c :: rest =>
    if c == 'Z' || c == 'z' then
      if (rest.dropWhile isDateSpace).isEmpty then some { p with zone := 0 } else none
    else if c == '-' || c == '+' then
      match fields [(2, 0, 14, some ':'), (2, 0, 59, none)] rest with
      | some [h, m] =>
        if ((rest.drop 5).dropWhile isDateSpace).isEmpty then
          some { p with zone := (if c == '-' then -1 else 1) * (m + h * 60) }
        else none
      | _ => none
    else none

/-- Reads a time `HH:MM[:SS[.fff]]` with an optional zone. -/
def readTime (p : Moment) (cs : List Char) : Option Moment :=
  match fields [(2, 0, 24, some ':'), (2, 0, 59, none)] cs with
  | some [h, m] =>
    let rest := cs.drop 5
    let (secs, rest) : Option (Float × List Char) × List Char :=
      match rest with
      | ':' :: more =>
        match fields [(2, 0, 59, none)] more with
        | some [s] =>
          let after := more.drop 2
          match after with
          | '.' :: d :: _ =>
            if isDigitChar d then
              let ds := (after.drop 1).takeWhile isDigitChar
              let (ms, scale) := ds.foldl (fun (acc : Float × Float) c =>
                (acc.1 * 10.0 + Float.ofNat (c.toNat - 48), acc.2 * 10.0)) (0.0, 1.0)
              let frac := ms / scale
              let frac := if frac > 0.999 then 0.999 else frac
              (some (Float.ofInt s + frac, []), (after.drop 1).drop ds.length)
            else (some (Float.ofInt s, []), after)
          | _ => (some (Float.ofInt s, []), after)
        | _ => (none, [])
      | _ => (some (0, []), rest)
    match secs with
    | none => none
    | some (s, _) =>
      readZone { p with validJd := false, raw := false, validTime := true, hour := h, minute := m,
                        second := s } rest
  | _ => none

/-- Reads a date `[-]YYYY-MM-DD` with an optional time after blanks or `T`. -/
def readDate (cs : List Char) : Option Moment :=
  let (neg, body) := match cs with
    | '-' :: rest => (true, rest)
    | rest => (false, rest)
  match fields [(4, 0, 9999, some '-'), (2, 1, 12, some '-'), (2, 1, 31, none)] body with
  | some [y, m, d] =>
    let rest := (body.drop 10).dropWhile fun c => isDateSpace c || c == 'T'
    let timed : Option Moment :=
      match readTime {} rest with
      | some t => some t
      | none => if rest.isEmpty then some { validTime := false } else none
    timed.map fun t =>
      let p := { t with validJd := false, validDate := true, year := if neg then -y else y,
                        month := m, day := d }
      let p := p.withOverflow
      if p.zone != 0 then p.withJd else p
  | _ => none

/-- Reads a time value given as text. -/
def readMoment (s : String) : Option Moment :=
  let cs := s.toList
  match readDate cs with
  | some p => some p
  | none =>
    match readTime {} cs with
    | some p => some p
    | none =>
      if nameKey s == "NOW" then some Moment.now
      else
        let r := NumberText.read s
        match r.kind with
        | .pureInteger | .pureReal => some (Moment.ofNumber r.value)
        | _ =>
          if nameKey s == "SUBSEC" || nameKey s == "SUBSECOND" then some { Moment.now with subsec := true }
          else none

/-- The units of the `±N unit` modifiers: name, limit of `N`, and milliseconds per unit. -/
def units : List (String × Float × Float) :=
  [("SECOND", 4.6427e14, 1.0), ("MINUTE", 7.7379e12, 60.0), ("HOUR", 1.2897e11, 3600.0),
   ("DAY", 5373485.0, 86400.0), ("MONTH", 176546.0, 2592000.0), ("YEAR", 14713.0, 31536000.0)]

/-- Brings a month number into `1..12`, carrying whole years. -/
def normalizeMonth (p : Moment) : Moment :=
  let x := if p.month > 0 then (p.month - 1).tdiv 12 else (p.month - 12).tdiv 12
  { p with year := p.year + x, month := p.month - x * 12 }

/-- Applies a modifier at argument position `idx` (from 1); `none` when the modifier is not
understood or cannot apply. -/
def applyModifier (p : Moment) (z : String) (idx : Nat) : Option Moment :=
  let key := nameKey z
  let cs := z.toList
  match cs with
  | [] => none
  | c0 :: _ =>
    if key == "AUTO" then
      if idx > 1 then none
      else if !p.raw || p.validJd then some { p with raw := false }
      else if p.second ≥ -210866760000.0 && p.second ≤ 253402300799.0 then
        let r := p.second * 1000.0 + 210866760000000.0
        some { p.clearParts with jd := Moment.trunc (r + 0.5), validJd := true, raw := false }
      else none
    else if key == "CEILING" then
      some { p.withJd.clearParts with overflow := 0 }
    else if key == "FLOOR" then
      let q := p.withJd
      some { q with jd := q.jd - q.overflow * 86400000 }.clearParts
    else if key == "JULIANDAY" then
      if idx > 1 then none
      else if p.validJd && p.raw then some { p with raw := false } else none
    else if key == "LOCALTIME" then some p
    else if key == "UNIXEPOCH" && p.raw then
      if idx > 1 then none
      else
        let r := p.second * 1000.0 + 210866760000000.0
        if r ≥ 0 && r < 464269060800000.0 then
          some { p.clearParts with jd := Moment.trunc (r + 0.5), validJd := true, raw := false }
        else none
    else if key == "UTC" then some p
    else if "WEEKDAY ".toList.isPrefixOf key.toList then
      let r := NumberText.read (String.ofList (cs.drop 8))
      let isNum := r.kind == .pureInteger || r.kind == .pureReal
      let n := Moment.trunc r.value
      if isNum && r.value ≥ 0 && r.value < 7 && Float.ofInt n == r.value then
        let q := { p.withDateTime with zone := 0, validJd := false }.withJd
        let zd := ((q.jd + 129600000).tdiv 86400000) % 7
        let zd := if zd > n then zd - 7 else zd
        some { q with jd := q.jd + (n - zd) * 86400000 }.clearParts
      else none
    else if "START OF ".toList.isPrefixOf key.toList then
      if !p.validJd && !p.validDate && !p.validTime then none
      else
        let q := p.withDate
        let q := { q with validTime := true, hour := 0, minute := 0, second := 0, raw := false,
                          zone := 0, validJd := false }
        match String.ofList (key.toList.drop 9) with
        | "MONTH" => some { q with day := 1 }
        | "YEAR" => some { q with month := 1, day := 1 }
        | "DAY" => some q
        | _ => none
    else if key == "SUBSEC" || key == "SUBSECOND" then some { p with subsec := true }
    else if c0 == '+' || c0 == '-' || isDigitChar c0 then
      offsetModifier p cs
    else none
where
  offsetModifier (p : Moment) (cs : List Char) : Option Moment :=
    let c0 := cs.headD ' '
    -- the length of the number
    let n := (List.range cs.length).drop 1 |>.find? (fun i =>
        let c := cs.getD i ' '
        c == ':' || isDateSpace c ||
        (c == '-' && ((i == 5 && (fields [(4, 0, 9999, none)] (cs.drop 1)).isSome) ||
          (i == 6 && (fields [(5, 0, 99999, none)] (cs.drop 1)).isSome))))
      |>.getD cs.length
    let numText := String.ofList (cs.take n)
    let r := NumberText.read numText
    if !(r.kind == .pureInteger || r.kind == .pureReal) then none
    else
      let rv := r.value
      let afterNum := cs.drop n
      -- (+|-)YYYY-MM-DD [HH:MM...]
      let dated : Option (Option (Moment × List Char)) :=
        match afterNum with
        | '-' :: _ =>
          if c0 != '+' && c0 != '-' then some none
          else
            let spec := if n == 5 then [(4, 0, 9999, some '-'), (2, 0, 12, some '-'), (2, 0, 31, none)]
              else [(5, 0, 99999, some '-'), (2, 0, 12, some '-'), (2, 0, 31, none)]
            match fields spec (cs.drop 1) with
            | some [y, m, d] =>
              if m ≥ 12 || d ≥ 31 then some none
              else
                let q := { p.withDateTime with validJd := false }
                let q := if c0 == '-' then { q with year := q.year - y, month := q.month - m }
                  else { q with year := q.year + y, month := q.month + m }
                let dd := if c0 == '-' then -d else d
                let q := (normalizeMonth q).withOverflow.withJd
                let q := { q with validTime := false, validDate := false, jd := q.jd + dd * 86400000 }
                let tail := cs.drop (n + 6)
                match tail with
                | [] => some (some (q, []))
                | s :: more =>
                  if isDateSpace s && (fields [(2, 0, 24, some ':'), (2, 0, 59, none)] more).isSome then
                    some (some (q, c0 :: more))
                  else some none
            | _ => some none
        | _ => none
      match dated with
      | some none => none
      | some (some (q, [])) => some q
      | some (some (q, timeText)) => timeOffset q c0 (timeText.drop 1)
      | none =>
        match afterNum with
        | ':' :: _ =>
          let t := if isDigitChar c0 then cs else cs.drop 1
          timeOffset p c0 t
        | _ =>
          let rest := afterNum.dropWhile isDateSpace
          let len := rest.length
          if len < 3 || len > 10 then none
          else
            let word := nameKey (String.ofList rest)
            let word := if word.endsWith "S" then String.ofList (word.toList.dropLast) else word
            let q := { p.withJd with overflow := 0 }
            let rounder : Float := if rv < 0 then -0.5 else 0.5
            match units.find? fun (nm, limit, _) => nm == word && rv > -limit && rv < limit with
            | none => none
            | some (nm, _, per) =>
              let (q, rv) :=
                if nm == "MONTH" then
                  let q := q.withDateTime
                  let q := normalizeMonth { q with month := q.month + Moment.trunc rv }
                  ({ q.withOverflow with validJd := false }, rv - Float.ofInt (Moment.trunc rv))
                else if nm == "YEAR" then
                  let q := q.withDateTime
                  let q := { q with year := q.year + Moment.trunc rv }
                  ({ q.withOverflow with validJd := false }, rv - Float.ofInt (Moment.trunc rv))
                else (q, rv)
              let q := q.withJd
              some { q with jd := q.jd + Moment.trunc (rv * 1000.0 * per + rounder) }.clearParts
  timeOffset (p : Moment) (c0 : Char) (t : List Char) : Option Moment :=
    match readTime {} t with
    | none => none
    | some tx =>
      let tx := tx.withJd
      let j := tx.jd - 43200000
      let dayN := j.tdiv 86400000
      let j := j - dayN * 86400000
      let j := if c0 == '-' then -j else j
      let q := p.withJd.clearParts
      some { q with jd := q.jd + j }

/-- Reads the time value and modifiers of a date function; `none` gives null. -/
def Moment.ofArgs (args : List Value) : Option Moment :=
  match args with
  | [] => some Moment.now
  | v :: mods =>
    let start : Option Moment :=
      match v with
      | .integer _ | .real _ => some (Moment.ofNumber v.realValue)
      | .null => none
      | v => readMoment v.asText
    let applied := (mods.zip (List.range mods.length)).foldl (fun (acc : Option Moment) (m, i) =>
      acc.bind fun p =>
        match m with
        | .null => none
        | m => applyModifier p m.asText (i + 1)) start
    applied.bind fun p =>
      let p := p.withJd
      if p.isError || !Moment.validDay p.jd then none
      else if mods.isEmpty && p.validDate && p.day > 28 then some { p with validDate := false }
      else some p

/-- Two digits of a number. -/
def pad2 (n : Int) : String := if n < 10 && n ≥ 0 then "0" ++ toString n else toString n

/-- A number written with at least `w` digits, zeros in front, a minus sign first. -/
def padN (w : Nat) (n : Int) : String :=
  let body := toString n.natAbs
  let body := String.ofList (List.replicate (w - body.length - (if n < 0 then 1 else 0)) '0') ++ body
  if n < 0 then "-" ++ body else body

/-- A number right-aligned in two places. -/
def space2 (n : Int) : String := if n < 10 && n ≥ 0 then " " ++ toString n else toString n

/-- Seconds with three decimals, six places wide. -/
def seconds3 (s : Float) : String :=
  Value.bytesText (Format.real { zeroPad := true, width := 6, precision := some 3 } 'f' s)

/-- The date part `YYYY-MM-DD` (a minus sign before a negative year). -/
def Moment.dateText (p : Moment) : String :=
  let y := p.year.natAbs
  let digit (k : Nat) : Char := Char.ofNat (48 + k % 10)
  (if p.year < 0 then "-" else "") ++
    String.ofList [digit (y / 1000), digit (y / 100), digit (y / 10), digit y] ++ "-" ++
    pad2 p.month ++ "-" ++ pad2 p.day

/-- The time part `HH:MM:SS`, or `HH:MM:SS.SSS` with sub-seconds. -/
def Moment.timeText (p : Moment) : String :=
  pad2 p.hour ++ ":" ++ pad2 p.minute ++ ":" ++
    (if p.subsec then
      let s := Moment.trunc (1000.0 * p.second + 0.5)
      let digit (k : Int) : Char := Char.ofNat (48 + (k % 10).toNat)
      String.ofList [digit (s / 10000), digit (s / 1000), '.', digit (s / 100), digit (s / 10), digit s]
    else pad2 (Moment.trunc p.second))

/-- The seconds since 1970 of a moment: whole, or with milliseconds. -/
def Moment.epochValue (p : Moment) : Value :=
  if p.subsec then .real (Float.ofInt (p.jd - 210866760000000) / 1000.0)
  else .integer (p.jd.tdiv 1000 - 210866760000)

/-- Days since January 1 of the moment's year. -/
def Moment.dayOfYear (p : Moment) : Int :=
  let jan := { p with validJd := false, month := 1, day := 1 }.withJd
  (p.jd - jan.jd + 43200000).tdiv 86400000

/-- Days since the last Monday. -/
def Moment.afterMonday (p : Moment) : Int := ((p.jd + 43200000).tdiv 86400000) % 7

/-- Days since the last Sunday. -/
def Moment.afterSunday (p : Moment) : Int := ((p.jd + 129600000).tdiv 86400000) % 7

/-- The Thursday of the moment's week, which fixes its ISO year and week. -/
def Moment.thursday (p : Moment) : Moment :=
  { p with jd := p.jd + (3 - p.afterMonday) * 86400000, validDate := false }.withDate

/-- The moment written by a format, its date and time computed; `none` for an unknown
directive. -/
def strftimeOf (fmt : String) (p : Moment) : Option String :=
  go fmt.length fmt.toList ""
where
  go : Nat → List Char → String → Option String
    | 0, _, acc => some acc
    | fuel + 1, cs, acc =>
      match cs with
      | [] => some acc
      | '%' :: c :: rest =>
        let piece : Option String :=
          match c with
          | 'd' => some (pad2 p.day)
          | 'e' => some (space2 p.day)
          | 'f' => some (seconds3 (if p.second > 59.999 then 59.999 else p.second))
          | 'F' => some (padN 4 p.year ++ "-" ++ pad2 p.month ++ "-" ++ pad2 p.day)
          | 'G' => some (padN 4 p.thursday.year)
          | 'g' => some (pad2 (p.thursday.year.tmod 100))
          | 'H' => some (pad2 p.hour)
          | 'k' => some (space2 p.hour)
          | 'I' | 'l' =>
            let h := if p.hour > 12 then p.hour - 12 else p.hour
            let h := if h == 0 then 12 else h
            some (if c == 'I' then pad2 h else space2 h)
          | 'j' => some (padN 3 (p.dayOfYear + 1))
          | 'J' => some (Value.bytesText (Format.real { precision := some 16 } 'g' (Float.ofInt p.jd / 86400000.0)))
          | 'm' => some (pad2 p.month)
          | 'M' => some (pad2 p.minute)
          | 'p' => some (if p.hour ≥ 12 then "PM" else "AM")
          | 'P' => some (if p.hour ≥ 12 then "pm" else "am")
          | 'R' => some (pad2 p.hour ++ ":" ++ pad2 p.minute)
          | 's' =>
            if p.subsec then
              some (Value.bytesText (Format.real { precision := some 3 } 'f'
                (Float.ofInt (p.jd - 210866760000000) / 1000.0)))
            else some (toString (p.jd.tdiv 1000 - 210866760000))
          | 'S' => some (pad2 (Moment.trunc p.second))
          | 'T' => some (pad2 p.hour ++ ":" ++ pad2 p.minute ++ ":" ++ pad2 (Moment.trunc p.second))
          | 'u' => let d := p.afterSunday; some (toString (if d == 0 then 7 else d))
          | 'w' => some (toString p.afterSunday)
          | 'U' => some (pad2 ((p.dayOfYear - p.afterSunday + 7).tdiv 7))
          | 'V' => some (pad2 (p.thursday.dayOfYear.tdiv 7 + 1))
          | 'W' => some (pad2 ((p.dayOfYear - p.afterMonday + 7).tdiv 7))
          | 'Y' => some (padN 4 p.year)
          | '%' => some "%"
          | _ => none
        piece.bind fun s => go fuel rest (acc ++ s)
      | ['%'] => none
      | c :: rest => go fuel rest (acc.push c)

/-- `strftime`: the moment written by a format; null for an unknown directive. -/
def strftime (fmt : String) (p : Moment) : Option String := strftimeOf fmt p.withJd.withDateTime

/-- `timediff(A, B)`: the time from `B` to `A` as `±YYYY-MM-DD HH:MM:SS.SSS`. -/
def timediff (a b : Moment) : String :=
  let d1 := a.withDateTime
  let d2 := b.withDateTime
  let later := d1.jd ≥ d2.jd
  let y0 := if later then d1.year - d2.year else d2.year - d1.year
  let d2 := if y0 != 0 then { d2 with year := d1.year, validJd := false }.withJd else d2
  let m0 := if later then d1.month - d2.month else d2.month - d1.month
  let (y0, m0) := if m0 < 0 then (y0 - 1, m0 + 12) else (y0, m0)
  let d2 := if m0 != 0 then { d2 with month := d1.month, validJd := false }.withJd else d2
  let rec walk : Nat → Int → Int → Moment → Int × Int × Moment
    | 0, y, m, d => (y, m, d)
    | fuel + 1, y, m, d =>
      if (if later then d1.jd < d.jd else d1.jd > d.jd) then
        let (m, y) := if m - 1 < 0 then (11, y - 1) else (m - 1, y)
        let d := if later then
            (if d.month - 1 < 1 then { d with month := 12, year := d.year - 1 } else { d with month := d.month - 1 })
          else
            (if d.month + 1 > 12 then { d with month := 1, year := d.year + 1 } else { d with month := d.month + 1 })
        walk fuel y m { d with validJd := false }.withJd
      else (y, m, d)
  let (y, m, d2) := walk 400 y0 m0 d2
  let diff := (if later then d1.jd - d2.jd else d2.jd - d1.jd) + 148699540800000
  let r := ({ jd := diff, validJd := true } : Moment).withDateTime
  (if later then "+" else "-") ++ padN 4 y ++ "-" ++ pad2 m ++ "-" ++ pad2 (r.day - 1) ++ " " ++
    pad2 r.hour ++ ":" ++ pad2 r.minute ++ ":" ++ seconds3 r.second

end Sql

end TelemetryBridge
