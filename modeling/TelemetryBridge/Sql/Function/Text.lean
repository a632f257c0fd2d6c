import TelemetryBridge.Sql.Function.Format

/-!
# Functions on texts and blobs

The text functions read their arguments as text (numbers written as text, blobs by their
bytes) and stop at a zero character where the function looks for the end of a text. Case is
ASCII case: other letters are kept as they are. Lengths and positions count characters in a
text and bytes in a blob.

Pattern matching follows `LIKE` and `GLOB`:

* `LIKE`: `%` matches any run of characters, `_` any one character, ASCII letters match either
  case, and an escape character makes the next pattern character literal;
* `GLOB`: `*` and `?` likewise, `[…]` a set of characters (with ranges `a-z` and `^` for the
  complement), and case counts.

Main definitions: `Sql.Pattern.matches`, `Sql.substr`, `Sql.instr`, `Sql.replaceAll`,
`Sql.trimChars`, `Sql.quote`.
-/

namespace TelemetryBridge

namespace Sql

/-- The characters of a text up to its first zero character. -/
def untilZero (s : String) : List Char := s.toList.takeWhile (· != '\x00')

/-- The text of a value for the text functions; `none` for null. -/
def Value.text? : Value → Option String
  | .null => none
  | v => some v.asText

/-- Rules of a pattern language: its wildcards (none when an escape took one over), its escape
or set character, whether `[…]` sets exist, and whether ASCII case is ignored. -/
structure Pattern where
  all : Option Char
  one : Option Char
  other : Option Char
  sets : Bool
  noCase : Bool

namespace Pattern

/-- How a match ends: a match, no match, or no match that a longer text could give either (which
ends the search at once). -/
inductive Outcome where
  | matched
  | noMatch
  | noWildcardMatch
  deriving Repr, DecidableEq, Inhabited

/-- ASCII lower case. -/
def lowerAscii (c : Char) : Char := if 'A' ≤ c && c ≤ 'Z' then Char.ofNat (c.toNat + 32) else c

/-- Whether two characters are the same under the rules. -/
def same (r : Pattern) (c d : Char) : Bool :=
  c == d || (r.noCase && c.toNat < 128 && d.toNat < 128 && lowerAscii c == lowerAscii d)

/-- Skips the match-alls and match-ones after a match-all, each match-one taking one character
of the text; `none` when the text runs out. -/
def skipWild (r : Pattern) : List Char → List Char → Option (List Char × List Char)
  | c :: pat, str =>
    if some c == r.all then skipWild r pat str
    else if some c == r.one then
      match str with
      | [] => none
      | _ :: s => skipWild r pat s
    else some (c :: pat, str)
  | [], str => some ([], str)

/-- Reads a `[…]` set against a character: whether it matches, and the pattern after the set;
`none` when the set is not closed. -/
def readSet (c : Char) (pat : List Char) : Option (Bool × List Char) :=
  let (invert, pat) := match pat with
    | '^' :: rest => (true, rest)
    | rest => (false, rest)
  let (seen, pat) := match pat with
    | ']' :: rest => (c == ']', rest)
    | rest => (false, rest)
  go pat.length pat seen 0 |>.map fun (s, rest) => (s != invert, rest)
where
  go : Nat → List Char → Bool → Nat → Option (Bool × List Char)
    | 0, _, _, _ => none
    | fuel + 1, pat, seen, prior =>
      match pat with
      | [] => none
      | ']' :: rest => some (seen, rest)
      | '-' :: d :: rest =>
        if d != ']' && prior > 0 then
          go fuel rest (seen || (prior ≤ c.toNat && c.toNat ≤ d.toNat)) 0
        else go fuel (d :: rest) (seen || c == '-') '-'.toNat
      | x :: rest => go fuel rest (seen || c == x) x.toNat

mutual

/-- Matches a pattern against a text; `fuel` bounds the depth of the search. -/
def compare (r : Pattern) : Nat → List Char → List Char → Outcome
  | 0, _, _ => .noMatch
  | fuel + 1, pat, str =>
    match pat with
    | [] => if str.isEmpty then .matched else .noMatch
    | c :: pat' =>
      if some c == r.all then
        match skipWild r pat' str with
        | none => .noWildcardMatch
        | some ([], _) => .matched
        | some (d :: rest, str) =>
          if some d == r.other then
            if !r.sets then
              match rest with
              | [] => .noWildcardMatch
              | e :: rest' => search r fuel e rest' str
            else tryEach r fuel (d :: rest) str
          else search r fuel d rest str
      else if some c == r.other && !r.sets then
        match pat' with
        | [] => .noMatch
        | e :: rest =>
          match str with
          | d :: str' => if r.same e d then compare r fuel rest str' else .noMatch
          | [] => .noMatch
      else if some c == r.other && r.sets then
        match str with
        | [] => .noMatch
        | d :: str' =>
          match readSet d pat' with
          | some (true, rest) => compare r fuel rest str'
          | _ => .noMatch
      else
        match str with
        | d :: str' =>
          if r.same c d || some c == r.one then compare r fuel pat' str' else .noMatch
        | [] => .noMatch

/-- After a match-all, tries the rest of the pattern after each place in the text where the
character `c` stands. -/
def search (r : Pattern) : Nat → Char → List Char → List Char → Outcome
  | 0, _, _, _ => .noWildcardMatch
  | fuel + 1, c, pat, str =>
    match str with
    | [] => .noWildcardMatch
    | d :: rest =>
      if r.same c d then
        match compare r fuel pat rest with
        | .noMatch => search r fuel c pat rest
        | o => o
      else search r fuel c pat rest

/-- After a match-all followed by a set, tries the pattern from the set at each place of the
text. -/
def tryEach (r : Pattern) : Nat → List Char → List Char → Outcome
  | 0, _, _ => .noWildcardMatch
  | fuel + 1, pat, str =>
    match str with
    | [] => .noWildcardMatch
    | _ :: rest =>
      match compare r fuel pat str with
      | .noMatch => tryEach r fuel pat rest
      | o => o

end

/-- Whether a text matches a pattern, both cut at their first zero character. -/
def «matches» (r : Pattern) (pat str : String) : Bool :=
  let p := untilZero pat
  let s := untilZero str
  compare r ((p.length + 1) * (s.length + 2) + 2) p s == .matched

/-- The rules of `LIKE` with an optional escape character. -/
def like (escape : Option Char) : Pattern :=
  { all := if escape == some '%' then none else some '%'
    one := if escape == some '_' then none else some '_'
    other := escape, sets := false, noCase := true }

/-- The rules of `GLOB`. -/
def glob : Pattern := { all := some '*', one := some '?', other := some '[', sets := true, noCase := false }

end Pattern

/-- The number of characters of a text before its first zero character. -/
def charLength (s : String) : Nat := (untilZero s).length

/-- `length(X)`: characters of a text up to a zero character, bytes of a blob, characters of a
number's text. -/
def lengthOf : Value → Value
  | .null => .null
  | .blob b => .integer b.length
  | .text s => .integer (charLength s)
  | v => .integer v.asText.length

/-- `octet_length(X)`: bytes of a value's text or blob. -/
def octetLength : Value → Value
  | .null => .null
  | .blob b => .integer b.length
  | v => .integer v.asText.utf8ByteSize

/-- ASCII upper case of a text. -/
def upperText (s : String) : String :=
  String.map (fun c => if 'a' ≤ c && c ≤ 'z' then Char.ofNat (c.toNat - 32) else c) s

/-- ASCII lower case of a text. -/
def lowerText (s : String) : String := String.map Pattern.lowerAscii s

/-- `substr(X, start, count)`: characters of a text (bytes of a blob) from a position counted
from 1, or from the end when negative; a negative count takes the characters before the
position. Without a count the rest of the text is taken. -/
def substr (x : Value) (start : Int) (count : Option Int) : Value :=
  if x.isNull then .null else
  let isBlob := match x with
    | .blob _ => true
    | _ => false
  let items : Nat := match x with
    | .blob b => b.length
    | v => (untilZero v.asText).length
  let len : Int := items
  let p2 : Int := count.getD 1000000000
  let (p1, p2) : Int × Int :=
    if start < 0 then
      let p1 := start + len
      if p1 < 0 then (0, if p2 < 0 then 0 else p2 + p1) else (p1, p2)
    else if start > 0 then (start - 1, p2)
    else (0, if p2 > 0 then p2 - 1 else p2)
  let (p1, p2) : Int × Int :=
    if p2 < 0 then
      let q := if p2 < -p1 then p1 else -p2
      (p1 - q, q)
    else (p1, p2)
  let a := p1.toNat
  let n := p2.toNat
  if isBlob then
    match x with
    | .blob b =>
      if a ≥ b.length then .blob [] else .blob ((b.drop a).take n)
    | _ => .null
  else .text (String.ofList (((untilZero x.asText).drop a).take n))

/-- The units of a text or blob for `instr`: bytes grouped by character for a text. -/
def unitsOf (bs : Bytes) (isText : Bool) : List Bytes :=
  if isText then
    bs.foldr (fun b (acc : List Bytes) =>
      if b &&& 0xc0 == 0x80 then
        match acc with
        | u :: rest => (b :: u) :: rest
        | [] => [[b]]
      else [b] :: acc) []
  else bs.map fun b => [b]

/-- `instr(X, Y)`: the position of the first occurrence of `Y` in `X`, counted from 1 in
characters (bytes for two blobs); `0` when there is none, `1` for an empty `Y`. -/
def instr (x y : Value) : Value :=
  if x.isNull || y.isNull then .null
  else
    let bothBlobs := match x, y with
      | .blob _, .blob _ => true
      | _, _ => false
    let bytesOf (v : Value) : Bytes := match v with
      | .blob b => b
      | v => Bytes.ofString v.asText
    let hay := bytesOf x
    let needle := bytesOf y
    if needle.isEmpty then .integer 1
    else
      let units := unitsOf hay (!bothBlobs)
      let positions := (List.range units.length).map fun i => ((units.drop i).flatten, i)
      match positions.find? fun (rest, _) => needle.isPrefixOf rest with
      | some (_, i) => .integer (i + 1)
      | none => .integer 0

/-- Replaces every occurrence of a non-empty byte string by another, scanning from the left. -/
def replaceBytes (pat rep : Bytes) : Nat → Bytes → Bytes
  | 0, s => s
  | fuel + 1, s =>
    match s with
    | [] => []
    | b :: rest =>
      if pat.isPrefixOf s then rep ++ replaceBytes pat rep fuel (s.drop pat.length)
      else b :: replaceBytes pat rep fuel rest

/-- `replace(X, Y, Z)`: every occurrence of `Y` in `X` replaced by `Z`; an empty `Y` leaves `X`. -/
def replaceAll (x y z : Value) : Value :=
  match x.text?, y.text? with
  | some s, some p =>
    if (untilZero p).isEmpty then .text s
    else
      match z.text? with
      | some r =>
        let sb := Bytes.ofString s
        .text (Value.bytesText (replaceBytes (Bytes.ofString p) (Bytes.ofString r) (sb.length + 1) sb))
      | none => .null
  | _, _ => .null

/-- `trim`, `ltrim`, `rtrim`: drops characters of a set from the left, the right or both ends;
the set is a blank by default. -/
def trimChars (x : Value) (set : Option Value) (left right : Bool) : Value :=
  match x.text? with
  | none => .null
  | some s =>
    let chars : Option (List Char) := match set with
      | none => some [' ']
      | some v => v.text?.map untilZero
    match chars with
    | none => .null
    | some cs =>
      if cs.isEmpty then .text s
      else
        let l := s.toList
        let l := if left then l.dropWhile cs.contains else l
        let l := if right then (l.reverse.dropWhile cs.contains).reverse else l
        .text (String.ofList l)

/-- Upper-case hexadecimal digits of bytes. -/
def hexUpper (bs : Bytes) : String :=
  String.ofList (bs.flatMap fun b =>
    let digit (n : Nat) : Char := if n < 10 then Char.ofNat (48 + n) else Char.ofNat (55 + n)
    [digit (b.toNat / 16), digit (b.toNat % 16)])

/-- `hex(X)`: the bytes of a blob or of a value's text in upper-case hexadecimal. -/
def hexOf : Value → Value
  | .null => .text ""
  | .blob b => .text (hexUpper b)
  | v => .text (hexUpper (Bytes.ofString v.asText))

/-- `unhex(X, Y)`: the blob that pairs of hexadecimal digits stand for, characters of `Y` being
allowed between pairs; null when anything else stands in `X`. -/
def unhex (x : Value) (pass : Option Value) : Value :=
  match x.text?, (match pass with
      | none => some ""
      | some v => v.text?) with
  | some s, some p =>
    let allowed := p.toList
    let rec go : List Char → Bytes → Option Bytes
      | [], acc => some acc.reverse
      | [c], acc =>
        if (Bytes.hexValue? c.toNat.toUInt8).isSome && c.toNat < 128 then none
        else if c == '\x00' then some acc.reverse
        else if allowed.contains c then some acc.reverse else none
      | c :: d :: rest, acc =>
        if c == '\x00' then some acc.reverse
        else if c.toNat < 128 && (Bytes.hexValue? c.toNat.toUInt8).isSome then
          if d.toNat < 128 then
            match Bytes.hexValue? c.toNat.toUInt8, Bytes.hexValue? d.toNat.toUInt8 with
            | some h, some l => go rest ((16 * h + l).toUInt8 :: acc)
            | _, _ => none
          else none
        else if allowed.contains c then go (d :: rest) acc
        else none
    match go s.toList [] with
    | some b => .blob b
    | none => .null
  | _, _ => .null

/-- `unicode(X)`: the code point of the first character of a text; null for an empty text. -/
def unicodeOf (x : Value) : Value :=
  match x.text? with
  | some s =>
    match s.toList with
    | c :: _ => if c == '\x00' then .null else .integer c.toNat
    | [] => .null
  | none => .null

/-- `char(X, …)`: the text of code points; one outside the range of characters stands for the
replacement character. -/
def charOf (args : List Value) : Value :=
  .text (String.ofList (args.map fun v =>
    let n := v.intValue
    if n < 0 || n > 0x10ffff || (0xd800 ≤ n && n ≤ 0xdfff) then '�' else Char.ofNat n.toNat))

/-- `quote(X)`: a value as an SQL literal. A double has fifteen significant digits, or twenty
after the first when fifteen do not read back as the same double. -/
def quote : Value → Value
  | .null => .text "NULL"
  | .integer n => .text (toString n)
  | .real x =>
    let short := Value.bytesText (Format.real { secondAlternate := true, zeroPad := true, precision := some 15 } 'g' x)
    if (NumberText.read short).value == x then .text short
    else .text (Value.bytesText (Format.real { secondAlternate := true, zeroPad := true, precision := some 20 } 'e' x))
  | .blob b => .text ("X'" ++ hexUpper b ++ "'")
  | .text s =>
    .text ("'" ++ String.ofList ((untilZero s).flatMap fun c => if c == '\'' then [c, c] else [c]) ++ "'")

/-- A character of a text as a call of `unistr` writes it inside quotes. -/
def unistrChar (c : Char) : List Char :=
  if c == '\'' then ['\'', '\'']
  else if c == '\\' then ['\\', '\\']
  else if c.toNat ≤ 0x1f then
    ['\\', 'u', '0', '0', if c.toNat ≥ 0x10 then '1' else '0',
      "0123456789abcdef".toList.getD (c.toNat % 16) '0']
  else [c]

/-- `unistr_quote(X)`: as `quote`, except that a text with a control character is written as a
call of `unistr`, with its control characters and backslashes escaped. -/
def unistrQuote : Value → Value
  | .text s =>
    let cs := untilZero s
    if cs.any (·.toNat ≤ 0x1f) then .text ("unistr('" ++ String.ofList (cs.flatMap unistrChar) ++ "')")
    else quote (.text s)
  | v => quote v

/-- `concat(X, …)`: the texts of the arguments joined, nulls left out. -/
def concatAll (args : List Value) : Value :=
  .text (String.join (args.filterMap Value.text?))

/-- `concat_ws(SEP, X, …)`: the texts of the non-null arguments joined by the separator; null
when the separator is null. -/
def concatWith (sep : Value) (args : List Value) : Value :=
  match sep.text? with
  | some s => .text (s.intercalate (args.filterMap Value.text?))
  | none => .null

/-- The type name of a value, as `typeof` writes it. -/
def typeName : Value → String
  | .null => "null"
  | .integer _ => "integer"
  | .real _ => "real"
  | .text _ => "text"
  | .blob _ => "blob"

end Sql

end TelemetryBridge
