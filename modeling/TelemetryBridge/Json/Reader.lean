import TelemetryBridge.Json.Value
import TelemetryBridge.Text.Utf8

/-!
# Reading JSON text

The grammar is RFC 8259 on bytes: whitespace is space, tab, line feed and carriage return; a
string holds any byte from `0x20` up except an unescaped quote or backslash (bytes that are not
UTF-8 included); numbers are `-?(0|[1-9][0-9]*)(\.[0-9]+)?([eE][+-]?[0-9]+)?`; arrays and
objects nest at most `maxDepth` deep.

A text fails in one of two ways, and the difference is visible to callers: it *ends* inside a
value (`Malformed.truncated`), or a byte stands where it cannot (`Malformed.invalid`, which also covers
nesting past the limit).

Decoding a string literal turns escapes into UTF-8 and repairs it: a byte that starts no
well-formed UTF-8 sequence becomes U+FFFD, and so does a `\u` escape of a surrogate that is not
the first half of a surrogate pair immediately followed by the second half.

Main definitions: `Json.readValue` (one value at the front, with what follows), `Json.readWhole`
(exactly one value with only whitespace around it), `Json.isValid`, `Json.compact`.
-/

namespace TelemetryBridge

namespace Json

/-- How a text fails to be JSON. -/
inductive Malformed where
  /-- The text ended inside a value. -/
  | truncated
  /-- A byte stands where the grammar allows none, or the nesting is too deep. -/
  | invalid
  deriving Repr, DecidableEq, Inhabited

/-- Arrays and objects nest at most this deep. -/
def maxDepth : Nat := 10000

/-- JSON whitespace: space, tab, line feed, carriage return. -/
def isSpace (b : UInt8) : Bool := b == 32 || b == 9 || b == 10 || b == 13

/-- Drops leading JSON whitespace. -/
def skipSpace (s : Bytes) : Bytes := s.dropWhile isSpace

/-- Checks that `n` hexadecimal digits come first. -/
def hexRun : Nat → Bytes → Except Malformed Unit
  | 0, _ => .ok ()
  | _ + 1, [] => .error .truncated
  | n + 1, b :: rest => if (Bytes.hexValue? b).isSome then hexRun n rest else .error .invalid

/-- The raw content of a string literal whose opening quote has been read, and the bytes after
its closing quote. The content is kept as written, escapes included. -/
def stringSpan (s : Bytes) (acc : Bytes) : Except Malformed (Bytes × Bytes) :=
  match s with
  | [] => .error .truncated
  | b :: rest =>
    if b = 34 then .ok (acc.reverse, rest)
    else if b = 92 then
      match rest with
      | [] => .error .truncated
      | e :: rest' =>
        if e = 117 then
          match hexRun 4 rest' with
          | .error f => .error f
          | .ok () => stringSpan (rest'.drop 4) ((rest'.take 4).reverse ++ e :: b :: acc)
        else if e = 34 ∨ e = 92 ∨ e = 47 ∨ e = 98 ∨ e = 102 ∨ e = 110 ∨ e = 114 ∨ e = 116 then
          stringSpan rest' (e :: b :: acc)
        else .error .invalid
    else if b < 0x20 then .error .invalid
    else stringSpan rest (b :: acc)
termination_by s.length
decreasing_by all_goals simp only [List.length_cons, List.length_drop]; omega

/-- The value of four hexadecimal digits (zero where a digit is missing). -/
def hex4 (s : Bytes) : Nat :=
  (s.take 4).foldl (fun acc b => 16 * acc + (Bytes.hexValue? b).getD 0) 0

/-- Whether a code unit is a surrogate half. -/
def isSurrogate (u : Nat) : Bool := 0xD800 ≤ u && u ≤ 0xDFFF

/-- The character a `\u` escape stands for when it is followed by `after`, and how many bytes
of `after` it takes with it: a first surrogate half followed by an escaped second half forms
one character; any other surrogate half stands for U+FFFD. -/
def escapedUnit (u : Nat) (after : Bytes) : Char × Nat :=
  if isSurrogate u then
    match after with
    | 92 :: 117 :: more =>
      let v := hex4 more
      if (hexRun 4 more).toBool && 0xD800 ≤ u && u < 0xDC00 && 0xDC00 ≤ v && v ≤ 0xDFFF then
        (Char.ofNat (0x10000 + (u - 0xD800) * 0x400 + (v - 0xDC00)), 6)
      else ('�', 0)
    | _ => ('�', 0)
  else (Char.ofNat u, 0)

/-- The byte for a one-letter escape. -/
def escapedByte (e : UInt8) : UInt8 :=
  if e = 98 then 8 else if e = 102 then 12 else if e = 110 then 10
  else if e = 114 then 13 else if e = 116 then 9 else e

/-- Decodes the raw content of a valid string literal into UTF-8 bytes, repairing ill-formed
sequences to U+FFFD. -/
def unquote (s : Bytes) : Bytes :=
  match s with
  | [] => []
  | 92 :: 117 :: rest =>
    let (c, used) := escapedUnit (hex4 rest) (rest.drop 4)
    Utf8.encode c ++ unquote (rest.drop (4 + used))
  | 92 :: e :: rest => escapedByte e :: unquote rest
  | b :: rest =>
    match Utf8.lead b rest with
    | (.char c _, n) => Utf8.encode c ++ unquote (rest.drop n)
    | (.stray _, n) => Utf8.encode '�' ++ unquote (rest.drop n)
termination_by s.length
decreasing_by all_goals simp only [List.length_cons, List.length_drop]; omega

/-- Reads a literal word (the rest of `true`, `false` or `null`). -/
def literal : Bytes → Bytes → Except Malformed Bytes
  | [], s => .ok s
  | _ :: _, [] => .error .truncated
  | w :: ws, b :: rest => if w = b then literal ws rest else .error .invalid

/-- Reads decimal digits, at least one; returns them and the rest. -/
def digits1 (s : Bytes) : Except Malformed (Bytes × Bytes) :=
  match s with
  | [] => .error .truncated
  | b :: _ =>
    if Bytes.isDigit b then .ok (s.takeWhile Bytes.isDigit, s.dropWhile Bytes.isDigit)
    else .error .invalid

/-- The sign of a number literal: a minus, or nothing. -/
def numberSign : Bytes → Bytes × Bytes
  | 45 :: r => ([45], r)
  | r => ([], r)

/-- The integer part of a number literal: a lone `0`, or decimal digits. -/
def numberWhole : Bytes → Except Malformed (Bytes × Bytes)
  | 48 :: r => .ok ([48], r)
  | s => digits1 s

/-- The fraction of a number literal: a point and decimal digits, or nothing. -/
def numberFrac : Bytes → Except Malformed (Bytes × Bytes)
  | 46 :: r => (digits1 r).map fun (ds, r) => (46 :: ds, r)
  | r => .ok ([], r)

/-- The exponent of a number literal: `e` or `E`, an optional sign and decimal digits, or
nothing. -/
def numberExpo : Bytes → Except Malformed (Bytes × Bytes)
  | e :: r =>
    if e = 101 ∨ e = 69 then
      let (sg, r) := match r with
        | 43 :: t => ([(43 : UInt8)], t)
        | 45 :: t => ([(45 : UInt8)], t)
        | t => ([], t)
      (digits1 r).map fun (ds, r) => (e :: sg ++ ds, r)
    else .ok ([], e :: r)
  | [] => .ok ([], [])

/-- Reads a number literal (the sign already checked to be `-` or a digit); returns its text and
the rest. -/
def number (s : Bytes) : Except Malformed (Bytes × Bytes) := do
  let (sign, s) := numberSign s
  let (whole, s) ← numberWhole s
  let (frac, s) ← numberFrac s
  let (expo, s) ← numberExpo s
  pure (sign ++ whole ++ frac ++ expo, s)

mutual

/-- Reads one value after optional whitespace, at nesting depth `depth`; `fuel` bounds the
recursion and is never exhausted when it exceeds twice the length of the text. -/
def value : Nat → Nat → Bytes → Except Malformed (Value × Bytes)
  | 0, _, _ => .error .invalid
  | fuel + 1, depth, s =>
    match skipSpace s with
    | [] => .error .truncated
    | b :: rest =>
      if b = 123 then
        if depth + 1 > maxDepth then .error .invalid
        else
          match skipSpace rest with
          | 125 :: rest' => .ok (.object [], rest')
          | _ => members fuel (depth + 1) rest []
      else if b = 91 then
        if depth + 1 > maxDepth then .error .invalid
        else
          match skipSpace rest with
          | 93 :: rest' => .ok (.array [], rest')
          | _ => elements fuel (depth + 1) rest []
      else if b = 34 then
        match stringSpan rest [] with
        | .ok (raw, rest') => .ok (.string (unquote raw), rest')
        | .error f => .error f
      else if b = 116 then (literal (Bytes.ofString "rue") rest).map fun r => (.bool true, r)
      else if b = 102 then (literal (Bytes.ofString "alse") rest).map fun r => (.bool false, r)
      else if b = 110 then (literal (Bytes.ofString "ull") rest).map fun r => (.null, r)
      else if b = 45 ∨ Bytes.isDigit b then
        (number (b :: rest)).map fun (t, r) => (.number t, r)
      else .error .invalid

/-- Reads the elements of an array after its opening bracket (the array is not empty). -/
def elements : Nat → Nat → Bytes → List Value → Except Malformed (Value × Bytes)
  | 0, _, _, _ => .error .invalid
  | fuel + 1, depth, s, acc =>
    match value fuel depth s with
    | .error f => .error f
    | .ok (v, rest) =>
      match skipSpace rest with
      | [] => .error .truncated
      | 44 :: rest' => elements fuel depth rest' (v :: acc)
      | 93 :: rest' => .ok (.array (v :: acc).reverse, rest')
      | _ => .error .invalid

/-- Reads the members of an object after its opening brace (the object is not empty). -/
def members : Nat → Nat → Bytes → List (Bytes × Value) → Except Malformed (Value × Bytes)
  | 0, _, _, _ => .error .invalid
  | fuel + 1, depth, s, acc =>
    match skipSpace s with
    | [] => .error .truncated
    | 34 :: rest =>
      match stringSpan rest [] with
      | .error f => .error f
      | .ok (raw, rest) =>
        match skipSpace rest with
        | [] => .error .truncated
        | 58 :: rest =>
          match value fuel depth rest with
          | .error f => .error f
          | .ok (v, rest) =>
            match skipSpace rest with
            | [] => .error .truncated
            | 44 :: rest' => members fuel depth rest' ((unquote raw, v) :: acc)
            | 125 :: rest' => .ok (.object ((unquote raw, v) :: acc).reverse, rest')
            | _ => .error .invalid
        | _ => .error .invalid
    | _ => .error .invalid

end

/-- Fuel enough for any text of the given length. -/
def fuelFor (s : Bytes) : Nat := 2 * s.length + 2

/-- Reads one value at the front of a text (after optional whitespace) and returns what
follows it. -/
def readValue (s : Bytes) : Except Malformed (Value × Bytes) := value (fuelFor s) 0 s

/-- Reads a text that is exactly one value with only whitespace around it. -/
def readWhole (s : Bytes) : Except Malformed Value :=
  match readValue s with
  | .error f => .error f
  | .ok (v, rest) => if (skipSpace rest).isEmpty then .ok v else .error .invalid

/-- Whether a text is exactly one JSON value with only whitespace around it. -/
def isValid (s : Bytes) : Bool := (readWhole s).toBool

/-- Drops whitespace outside string literals; `inStr` and `esc` track the position. -/
def dropLayout : Bytes → Bool → Bool → Bytes
  | [], _, _ => []
  | b :: rest, inStr, esc =>
    if inStr then
      if esc then b :: dropLayout rest true false
      else if b = 92 then b :: dropLayout rest true true
      else if b = 34 then b :: dropLayout rest false false
      else b :: dropLayout rest true false
    else if isSpace b then dropLayout rest false false
    else if b = 34 then b :: dropLayout rest true false
    else b :: dropLayout rest false false

/-- The compact form of a valid JSON text: the same bytes without whitespace outside string
literals; `none` for a text that is not one JSON value. -/
def compact (s : Bytes) : Option Bytes :=
  if isValid s then some (dropLayout s false false) else none

/-- The characters a document embedded in another is additionally escaped for: `<`, `>`, `&`,
and the separators U+2028 and U+2029. -/
def escapeEmbedded : Bytes → Bytes
  | [] => []
  | 0xE2 :: 0x80 :: c :: rest =>
    if c = 0xA8 ∨ c = 0xA9 then
      Bytes.ofString "\\u202" ++ [Bytes.hexDigit (c.toNat % 16)] ++ escapeEmbedded rest
    else 0xE2 :: escapeEmbedded (0x80 :: c :: rest)
  | b :: rest =>
    if b = 60 ∨ b = 62 ∨ b = 38 then
      Bytes.ofString "\\u00" ++ Bytes.hexOfByte b ++ escapeEmbedded rest
    else b :: escapeEmbedded rest

end Json

end TelemetryBridge
