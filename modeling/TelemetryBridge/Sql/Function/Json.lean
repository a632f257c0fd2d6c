import TelemetryBridge.Sql.Function.Text

/-!
# JSON documents in SQL values

The JSON functions read a text as a JSON document, address its parts by paths, and write
documents back as minified text.

Reading accepts JSON and the JSON5 extensions: comments, more blanks, trailing commas,
unquoted keys, single-quoted strings, more escapes, hexadecimal integers, numbers with a bare
point or a plus sign, `Infinity` and `NaN`. The text written back is always JSON: a JSON5
number is written in decimal (`0x1F` as `31`, `.5` as `0.5`, `Infinity` as `9e999`, `NaN` as
`null`), a JSON5 string with JSON escapes, a key with quotes. Standard JSON is written as it
was read, escapes included, without blanks.

A path is `$` followed by steps: `.key` or `."key"` for a member (the first of that name), `[N]`
for an element, `[#-N]` for the `N`-th element from the end, and `[#]` for the place after the
last element (where an element can be added).

An SQL value becomes JSON as a number, `null`, or a string, except that a text that another
JSON function returned is taken as JSON.

Main definitions: `Sql.Json.Node`, `Sql.Json.parse`, `Sql.Json.Node.render`,
`Sql.Json.lookup`, `Sql.Json.edit`.
-/

namespace TelemetryBridge

namespace Sql

namespace Json

/-- A JSON value. Numbers and strings keep the text they are written with: a number its
digits, a string (and a key) the characters between its quotes, escapes included. -/
inductive Node where
  | null
  | bool (b : Bool)
  | number (text : String) (isReal : Bool)
  | string (raw : String)
  | array (items : List Node)
  | object (members : List (String × Node))
  deriving Inhabited, Repr

/-- The reader's position: the characters left, how many were read, and whether anything
outside standard JSON was seen. -/
structure Cursor where
  rest : List Char
  pos : Nat
  nonstandard : Bool := false

/-- A reader of JSON text; a failure gives the position of the offending character. -/
abbrev Reader := StateT Cursor (Except Nat)

/-- Fails at the current position. -/
def fail {α : Type} : Reader α := do throw ((← get).pos + 1)

/-- The next character, not read yet. -/
def peekChar : Reader (Option Char) := do pure (← get).rest.head?

/-- Reads one character. -/
def take : Reader Unit := modify fun c => { c with rest := c.rest.drop 1, pos := c.pos + 1 }

/-- Marks the text as using JSON5. -/
def markNonstandard : Reader Unit := modify fun c => { c with nonstandard := true }

/-- The blanks of standard JSON. -/
def isJsonSpace (c : Char) : Bool := c == ' ' || c == '\t' || c == '\n' || c == '\r'

/-- The further blanks of JSON5. -/
def isJson5Space (c : Char) : Bool :=
  c == '\x0b' || c == '\x0c' || c.toNat == 0xa0 || c.toNat == 0xfeff || c.toNat == 0x1680 ||
  (0x2000 ≤ c.toNat && c.toNat ≤ 0x200a) || c.toNat == 0x2028 || c.toNat == 0x2029 ||
  c.toNat == 0x202f || c.toNat == 0x205f || c.toNat == 0x3000

/-- Skips blanks and comments; `fuel` bounds the characters. -/
def skipBlanks : Nat → Reader Unit
  | 0 => pure ()
  | fuel + 1 => do
    let cur ← get
    match cur.rest with
    | c :: _ =>
      if isJsonSpace c then take; skipBlanks fuel
      else if isJson5Space c then markNonstandard; take; skipBlanks fuel
      else
        match cur.rest with
        | '/' :: '*' :: more =>
          let body := more.length
          let rec close : List Char → Nat → Option Nat
            | '*' :: '/' :: _, n => some (n + 2)
            | _ :: r, n => close r (n + 1)
            | [], _ => none
          match close more 0 with
          | some n =>
            markNonstandard
            set { cur with rest := more.drop n, pos := cur.pos + 2 + n, nonstandard := true }
            skipBlanks fuel
          | none => let _ := body; throw (cur.pos + 1)
        | '/' :: '/' :: more =>
          let line := more.takeWhile fun ch => ch != '\n' && ch != '\r' && ch.toNat != 0x2028 && ch.toNat != 0x2029
          set { cur with rest := more.drop line.length, pos := cur.pos + 2 + line.length, nonstandard := true }
          skipBlanks fuel
        | _ => pure ()
    | [] => pure ()

/-- Whether a character is a hexadecimal digit. -/
def isHexChar (c : Char) : Bool :=
  ('0' ≤ c && c ≤ '9') || ('a' ≤ c && c ≤ 'f') || ('A' ≤ c && c ≤ 'F')

/-- The value of a hexadecimal digit. -/
def hexCharValue (c : Char) : Nat :=
  if '0' ≤ c && c ≤ '9' then c.toNat - 48
  else if 'a' ≤ c && c ≤ 'f' then c.toNat - 87 else c.toNat - 55

/-- Lower-case hexadecimal digits of a byte. -/
def hex2 (n : Nat) : String :=
  let d (k : Nat) : Char := if k < 10 then Char.ofNat (48 + k) else Char.ofNat (87 + k)
  String.ofList [d (n / 16 % 16), d (n % 16)]

/-- The escape a control character is written with. -/
def controlEscape (c : Char) : String :=
  match c with
  | '\x08' => "\\b"
  | '\x0c' => "\\f"
  | '\n' => "\\n"
  | '\r' => "\\r"
  | '\t' => "\\t"
  | _ => "\\u00" ++ hex2 c.toNat

/-- Reads the characters of a string after its opening quote, up to the closing one: the text
to write between double quotes. -/
def stringBody (q : Char) : Nat → String → Reader String
  | 0, _ => fail
  | fuel + 1, acc => do
    match (← get).rest with
    | [] => fail
    | c :: more =>
      if c == q then take; pure acc
      else if c == '\\' then
        match more with
        | e :: after =>
          if e == '"' || e == '\\' || e == '/' || e == 'b' || e == 'f' || e == 'n' || e == 'r' || e == 't' then
            take; take; stringBody q fuel (acc ++ String.ofList [c, e])
          else if e == 'u' then
            let hs := after.take 4
            if hs.length == 4 && hs.all isHexChar then
              take; take; take; take; take; take
              stringBody q fuel (acc ++ "\\u" ++ String.ofList hs)
            else fail
          else if e == '\'' then take; take; markNonstandard; stringBody q fuel (acc.push '\'')
          else if e == 'v' then take; take; markNonstandard; stringBody q fuel (acc ++ "\\u0009")
          else if e == '0' then
            match after with
            | d :: _ => if '0' ≤ d && d ≤ '9' then fail else do take; take; markNonstandard; stringBody q fuel (acc ++ "\\u0000")
            | [] => do take; take; markNonstandard; stringBody q fuel (acc ++ "\\u0000")
          else if e == 'x' then
            let hs := after.take 2
            if hs.length == 2 && hs.all isHexChar then
              take; take; take; take; markNonstandard
              stringBody q fuel (acc ++ "\\u00" ++ String.ofList hs)
            else fail
          else if e == '\n' || e.toNat == 0x2028 || e.toNat == 0x2029 then
            take; take; markNonstandard; stringBody q fuel acc
          else if e == '\r' then
            take; take
            if after.head? == some '\n' then take
            markNonstandard
            stringBody q fuel acc
          else fail
        | [] => fail
      else if c.toNat < 0x20 then
        if c == '\x00' then fail
        else take; markNonstandard; stringBody q fuel (acc ++ controlEscape c)
      else if c == '"' then take; stringBody q fuel (acc ++ "\\\"")
      else take; stringBody q fuel (acc.push c)

/-- Whether a character may start an unquoted key. -/
def isKeyStart (c : Char) : Bool :=
  ('a' ≤ c && c ≤ 'z') || ('A' ≤ c && c ≤ 'Z') || c == '_' || c == '$' || c.toNat ≥ 0x80

/-- Whether a character may continue an unquoted key. -/
def isKeyChar (c : Char) : Bool := isKeyStart c || ('0' ≤ c && c ≤ '9')

/-- Reads digits. -/
def digits : Reader (List Char) := do
  let ds := (← get).rest.takeWhile fun c => '0' ≤ c && c ≤ '9'
  modify fun cur => { cur with rest := cur.rest.drop ds.length, pos := cur.pos + ds.length }
  pure ds

/-- Whether the text ahead starts with a word. -/
def ahead (w : String) : Reader Bool := do pure (w.toList.isPrefixOf (← get).rest)

/-- Reads a word known to be ahead. -/
def skipWord (w : String) : Reader Unit :=
  modify fun cur => { cur with rest := cur.rest.drop w.length, pos := cur.pos + w.length }

/-- Reads a number: a sign, then digits with a point and an exponent, a hexadecimal integer,
or `Infinity`. -/
def number : Reader Node := do
  let negative ← do
    match ← peekChar with
    | some '-' => take; pure true
    | some '+' => take; markNonstandard; pure false
    | _ => pure false
  let sign := if negative then "-" else ""
  if ← ahead "Infinity" then
    skipWord "Infinity"; markNonstandard
    return .number (sign ++ "9e999") true
  if ← ahead "NaN" then
    skipWord "NaN"; markNonstandard
    return .null
  let cur ← get
  match cur.rest with
  | '0' :: x :: h :: _ =>
    if (x == 'x' || x == 'X') && isHexChar h then
      take; take
      let hs := (← get).rest.takeWhile isHexChar
      modify fun c => { c with rest := c.rest.drop hs.length, pos := c.pos + hs.length }
      markNonstandard
      let (v, overflowed) := hs.foldl (fun (acc : Nat × Bool) ch =>
        if acc.1 / 2 ^ 60 != 0 then (acc.1, true) else (16 * acc.1 + hexCharValue ch, acc.2)) (0, false)
      return .number (sign ++ (if overflowed then "9.0e999" else toString v)) false
    else pure ()
  | _ => pure ()
  let whole ← digits
  match whole with
  | '0' :: _ :: _ => throw (cur.pos + 1)
  | _ => pure ()
  let pointed ← do
    if (← peekChar) == some '.' then take; pure true else pure false
  let frac ← if pointed then digits else pure []
  if whole.isEmpty && (!pointed || frac.isEmpty) then fail
  if whole.isEmpty || (pointed && frac.isEmpty) then markNonstandard
  let expPart ← do
    match ← peekChar with
    | some 'e' | some 'E' =>
      let e := ((← get).rest.head?.getD 'e')
      take
      let s ← do
        match ← peekChar with
        | some '+' => take; pure "+"
        | some '-' => take; pure "-"
        | _ => pure ""
      let ds ← digits
      if ds.isEmpty then fail
      pure (String.singleton e ++ s ++ String.ofList ds)
    | _ => pure ""
  let wholeText := if whole.isEmpty then "0" else String.ofList whole
  let fracText := if pointed then "." ++ (if frac.isEmpty then "0" else String.ofList frac) else ""
  pure (.number (sign ++ wholeText ++ fracText ++ expPart) (pointed || !expPart.isEmpty))

mutual

/-- Reads a value; `fuel` bounds the depth. -/
def value : Nat → Reader Node
  | 0 => fail
  | fuel + 1 => do
    skipBlanks ((← get).rest.length + 1)
    match ← peekChar with
    | some '{' => take; members fuel []
    | some '[' => take; elements fuel []
    | some '"' => take; .string <$> stringBody '"' ((← get).rest.length + 1) ""
    | some '\'' => take; markNonstandard; .string <$> stringBody '\'' ((← get).rest.length + 1) ""
    | some 't' => if ← ahead "true" then skipWord "true"; pure (.bool true) else fail
    | some 'f' => if ← ahead "false" then skipWord "false"; pure (.bool false) else fail
    | some 'n' => if ← ahead "null" then skipWord "null"; pure .null else fail
    | some c =>
      if ('0' ≤ c && c ≤ '9') || c == '-' || c == '+' || c == '.' || c == 'I' || c == 'N' then number
      else fail
    | none => fail

/-- Reads the members of an object after `{`. -/
def members : Nat → List (String × Node) → Reader Node
  | 0, _ => fail
  | fuel + 1, acc => do
    skipBlanks ((← get).rest.length + 1)
    match ← peekChar with
    | some '}' => take; pure (.object acc.reverse)
    | _ => do
      if !acc.isEmpty then pure () else pure ()
      let key ← do
        match ← peekChar with
        | some '"' => take; stringBody '"' ((← get).rest.length + 1) ""
        | some '\'' => take; markNonstandard; stringBody '\'' ((← get).rest.length + 1) ""
        | some c =>
          if isKeyStart c then
            let ks := (← get).rest.takeWhile isKeyChar
            modify fun cur => { cur with rest := cur.rest.drop ks.length, pos := cur.pos + ks.length }
            markNonstandard
            pure (String.ofList ks)
          else fail
        | none => fail
      skipBlanks ((← get).rest.length + 1)
      if (← peekChar) != some ':' then fail
      take
      let v ← value fuel
      skipBlanks ((← get).rest.length + 1)
      match ← peekChar with
      | some ',' =>
        take
        skipBlanks ((← get).rest.length + 1)
        if (← peekChar) == some '}' then markNonstandard; take; pure (.object ((key, v) :: acc).reverse)
        else members fuel ((key, v) :: acc)
      | some '}' => take; pure (.object ((key, v) :: acc).reverse)
      | _ => fail

/-- Reads the elements of an array after `[`. -/
def elements : Nat → List Node → Reader Node
  | 0, _ => fail
  | fuel + 1, acc => do
    skipBlanks ((← get).rest.length + 1)
    match ← peekChar with
    | some ']' => if acc.isEmpty then take; pure (.array []) else fail
    | _ => do
      let v ← value fuel
      skipBlanks ((← get).rest.length + 1)
      match ← peekChar with
      | some ',' =>
        take
        skipBlanks ((← get).rest.length + 1)
        if (← peekChar) == some ']' then markNonstandard; take; pure (.array (v :: acc).reverse)
        else elements fuel (v :: acc)
      | some ']' => take; pure (.array (v :: acc).reverse)
      | _ => fail

end

/-- The deepest nesting a document may have. -/
def maxDepth : Nat := 1000

/-- Reads a whole text as a JSON document: the document and whether it used JSON5, or the
position (from 1) of the first character that cannot be read. -/
def parseText (s : String) : Except Nat (Node × Bool) :=
  let run : Reader Node := do
    let v ← value maxDepth
    skipBlanks ((← get).rest.length + 1)
    if !(← get).rest.isEmpty then fail
    pure v
  match run.run { rest := s.toList, pos := 0 } with
  | .ok (v, cur) => .ok (v, cur.nonstandard)
  | .error p => .error p

/-- Reads a text as a JSON document; the failure message is `malformed JSON`. -/
def parse (s : String) : Except String Node :=
  match parseText s with
  | .ok (v, _) => .ok v
  | .error _ => .error "malformed JSON"

namespace Node

mutual

/-- The minified text of a document. -/
def render : Node → String
  | .null => "null"
  | .bool b => if b then "true" else "false"
  | .number t _ => t
  | .string raw => "\"" ++ raw ++ "\""
  | .array items => "[" ++ renderItems items ++ "]"
  | .object ms => "\x7b" ++ renderMembers ms ++ "\x7d"

/-- The elements of an array, separated by commas. -/
def renderItems : List Node → String
  | [] => ""
  | [x] => render x
  | x :: rest => render x ++ "," ++ renderItems rest

/-- The members of an object, separated by commas. -/
def renderMembers : List (String × Node) → String
  | [] => ""
  | [(k, v)] => "\"" ++ k ++ "\":" ++ render v
  | (k, v) :: rest => "\"" ++ k ++ "\":" ++ render v ++ "," ++ renderMembers rest

end

mutual

/-- The text of a document laid out with one item a line, indented by `indent` per level. -/
def pretty (indent : String) (depth : Nat) : Node → String
  | .array [] => "[]"
  | .object [] => "\x7b\x7d"
  | .array items =>
    "[\n" ++ prettyItems indent (depth + 1) items ++ "\n" ++
      String.join (List.replicate depth indent) ++ "]"
  | .object ms =>
    "\x7b\n" ++ prettyMembers indent (depth + 1) ms ++ "\n" ++
      String.join (List.replicate depth indent) ++ "\x7d"
  | .null => "null"
  | .bool b => if b then "true" else "false"
  | .number t _ => t
  | .string raw => "\"" ++ raw ++ "\""

/-- The elements of an array, one a line. -/
def prettyItems (indent : String) (depth : Nat) : List Node → String
  | [] => ""
  | [x] => String.join (List.replicate depth indent) ++ pretty indent depth x
  | x :: rest => String.join (List.replicate depth indent) ++ pretty indent depth x ++ ",\n" ++
      prettyItems indent depth rest

/-- The members of an object, one a line. -/
def prettyMembers (indent : String) (depth : Nat) : List (String × Node) → String
  | [] => ""
  | [(k, v)] => String.join (List.replicate depth indent) ++ "\"" ++ k ++ "\": " ++ pretty indent depth v
  | (k, v) :: rest => String.join (List.replicate depth indent) ++ "\"" ++ k ++ "\": " ++
      pretty indent depth v ++ ",\n" ++ prettyMembers indent depth rest

end

/-- The type name `json_type` gives. -/
def typeName : Node → String
  | .null => "null"
  | .bool b => if b then "true" else "false"
  | .number _ r => if r then "real" else "integer"
  | .string _ => "text"
  | .array _ => "array"
  | .object _ => "object"

end Node

/-- The characters a string's text between quotes stands for, its escapes decoded. -/
def decode (raw : String) : String :=
  String.ofList (go raw.length raw.toList)
where
  go : Nat → List Char → List Char
    | 0, _ => []
    | fuel + 1, cs =>
      match cs with
      | '\\' :: 'u' :: a :: b :: c :: d :: rest =>
        let u := hexCharValue a * 4096 + hexCharValue b * 256 + hexCharValue c * 16 + hexCharValue d
        if 0xd800 ≤ u && u < 0xdc00 then
          match rest with
          | '\\' :: 'u' :: e :: f :: g :: h :: more =>
            let w := hexCharValue e * 4096 + hexCharValue f * 256 + hexCharValue g * 16 + hexCharValue h
            if 0xdc00 ≤ w && w < 0xe000 then
              Char.ofNat (0x10000 + (u - 0xd800) * 1024 + (w - 0xdc00)) :: go fuel more
            else '�' :: go fuel rest
          | _ => '�' :: go fuel rest
        else if 0xdc00 ≤ u && u < 0xe000 then '�' :: go fuel rest
        else Char.ofNat u :: go fuel rest
      | '\\' :: e :: rest =>
        (match e with
          | 'b' => '\x08'
          | 'f' => '\x0c'
          | 'n' => '\n'
          | 'r' => '\r'
          | 't' => '\t'
          | c => c) :: go fuel rest
      | c :: rest => c :: go fuel rest
      | [] => []

/-- The text between quotes that writes a string in JSON. -/
def escape (s : String) : String :=
  String.join (s.toList.map fun c =>
    if c == '"' then "\\\"" else if c == '\\' then "\\\\"
    else if c.toNat < 0x20 then controlEscape c else String.singleton c)

/-- A double as JSON number text: fifteen significant digits, more when needed to read back. -/
def realNumber (x : Float) : String :=
  Value.bytesText (Format.real { secondAlternate := true, zeroPad := true, precision := some 15 } 'g' x)

/-- The JSON of an SQL value; a text is taken as JSON when `isJson` (it came from a JSON
function). A blob cannot be held. -/
def ofValue (v : Value) (isJson : Bool) : Except String Node :=
  match v with
  | .null => .ok .null
  | .integer n => .ok (.number (toString n) false)
  | .real x => .ok (.number (realNumber x) true)
  | .text s => if isJson then parse s else .ok (.string (escape s))
  | .blob _ => .error "JSON cannot hold BLOB values"

/-- The SQL value of a JSON value: null, `1` or `0` for true and false, an integer or double
for a number, the decoded text of a string, and the JSON text of an array or object. -/
def toValue : Node → Value
  | .null => .null
  | .bool b => .integer (if b then 1 else 0)
  | .number t isReal =>
    if isReal then .real (NumberText.read t).value
    else
      match leadingInteger t with
      | (n, .exact) => .integer n
      | (_, .edge) => if t.startsWith "-" then .integer minInt else .real (NumberText.read t).value
      | _ => .real (NumberText.read t).value
  | .string raw => .text (decode raw)
  | v => .text v.render

/-- A step of a path. -/
inductive Step where
  | key (k : String)
  | index (n : Nat)
  /-- `[#-N]`: the `N`-th element from the end; `[#]` is `N = 0`. -/
  | fromEnd (n : Nat)
  deriving Repr, Inhabited

/-- Reads the first step of a path after `$`: the step and the rest, `none` at the end of the
path, or an error for a malformed step. -/
def nextStep (p : List Char) : Except Unit (Option (Step × List Char)) :=
  match p with
  | [] => .ok none
  | '.' :: '"' :: rest =>
    let k := rest.takeWhile (· != '"')
    match rest.drop k.length with
    | '"' :: more => .ok (some (.key (String.ofList k), more))
    | _ => .error ()
  | '.' :: rest =>
    let k := rest.takeWhile fun c => c != '.' && c != '['
    if k.isEmpty then .error () else .ok (some (.key (String.ofList k), rest.drop k.length))
  | '[' :: '#' :: rest =>
    match rest with
    | ']' :: more => .ok (some (.fromEnd 0, more))
    | '-' :: d :: more =>
      if '0' ≤ d && d ≤ '9' then
        let ds := (d :: more).takeWhile fun c => '0' ≤ c && c ≤ '9'
        match (d :: more).drop ds.length with
        | ']' :: after => .ok (some (.fromEnd (digitsNat ds), after))
        | _ => .error ()
      else .error ()
    | _ => .error ()
  | '[' :: rest =>
    let ds := rest.takeWhile fun c => '0' ≤ c && c ≤ '9'
    match rest.drop ds.length with
    | ']' :: more => if ds.isEmpty then .error () else .ok (some (.index (digitsNat ds), more))
    | _ => .error ()
  | _ => .error ()

/-- What a lookup finds: the value, nothing, or a malformed path. -/
inductive Found where
  | value (v : Node)
  | missing
  | badPath
  deriving Inhabited

/-- The position a step names in an array of a length. -/
def position (s : Step) (len : Nat) : Option Nat :=
  match s with
  | .index n => some n
  | .fromEnd n => if n > len then none else some (len - n)
  | .key _ => none

/-- Looks up the rest of a path (after `$`) in a document; `fuel` bounds the steps. -/
def lookupSteps : Nat → Node → List Char → Found
  | 0, _, _ => .missing
  | fuel + 1, v, p =>
    match nextStep p with
    | .error () => .badPath
    | .ok none => .value v
    | .ok (some (s, rest)) =>
      match s, v with
      | .key k, .object ms =>
        match ms.find? fun (k2, _) => decode k2 == decode k with
        | some (_, w) => lookupSteps fuel w rest
        | none => .missing
      | .key _, _ => .missing
      | s, .array items =>
        match position s items.length with
        | some i =>
          match items[i]? with
          | some w => lookupSteps fuel w rest
          | none => .missing
        | none => .missing
      | _, _ => .missing

/-- Looks up a path (which must start with `$`) in a document. -/
def lookup (v : Node) (path : String) : Found :=
  match path.toList with
  | '$' :: rest => lookupSteps (rest.length + 1) v rest
  | _ => .badPath

/-- How an edit treats the place a path names: replace what is there, insert where nothing is,
or either. -/
inductive EditMode where
  | replace
  | insert
  | set
  deriving DecidableEq, Inhabited

/-- A new value placed at the rest of a path, building the objects and arrays it names; `none`
when the path cannot be built (an index other than the first place). -/
def build : Nat → List Char → Node → Except Unit (Option Node)
  | 0, _, _ => .ok none
  | fuel + 1, p, x =>
    match nextStep p with
    | .error () => .error ()
    | .ok none => .ok (some x)
    | .ok (some (.key k, rest)) =>
      match build fuel rest x with
      | .ok (some w) => .ok (some (.object [(k, w)]))
      | other => other
    | .ok (some (s, rest)) =>
      match position s 0 with
      | some 0 =>
        match build fuel rest x with
        | .ok (some w) => .ok (some (.array [w]))
        | other => other
      | _ => .ok none

/-- Edits the place a path (after `$`) names: sets a value there by the mode, or removes it
(`none` as the new value). Fails on a malformed path. -/
def editSteps (mode : EditMode) (x : Option Node) : Nat → Node → List Char → Except Unit Node
  | 0, v, _ => .ok v
  | fuel + 1, v, p =>
    match nextStep p with
    | .error () => .error ()
    | .ok none =>
      match x with
      | some w => if mode == .insert then .ok v else .ok w
      | none => .ok v
    | .ok (some (s, rest)) =>
      match s, v with
      | .key k, .object ms =>
        match ms.findIdx? fun (k2, _) => decode k2 == decode k with
        | some i =>
          let (k2, w) := ms.getD i ("", .null)
          match nextStep rest, x with
          | .ok none, none => .ok (.object (ms.eraseIdx i))
          | _, _ => do
            let w' ← editSteps mode x fuel w rest
            .ok (.object (ms.set i (k2, w')))
        | none =>
          match x with
          | some w =>
            if mode == .replace then .ok v
            else
              match build fuel rest w with
              | .ok (some built) => .ok (.object (ms ++ [(escape (decode k), built)]))
              | .ok none => .ok v
              | .error () => .error ()
          | none =>
            match nextStep rest with
            | .error () => .error ()
            | _ => .ok v
      | .key _, _ =>
        match nextStep rest with
        | .error () => .error ()
        | _ => .ok v
      | s, .array items =>
        match position s items.length with
        | some i =>
          if i < items.length then
            match nextStep rest, x with
            | .ok none, none => .ok (.array (items.eraseIdx i))
            | _, _ => do
              let w' ← editSteps mode x fuel (items.getD i .null) rest
              .ok (.array (items.set i w'))
          else if i == items.length then
            match x with
            | some w =>
              if mode == .replace then .ok v
              else
                match build fuel rest w with
                | .ok (some built) => .ok (.array (items ++ [built]))
                | .ok none => .ok v
                | .error () => .error ()
            | none => .ok v
          else .ok v
        | none => .ok v
      | _, _ => .ok v

/-- Edits the place a path names (the path must start with `$`); fails on a malformed path. -/
def edit (mode : EditMode) (x : Option Node) (v : Node) (path : String) : Except Unit Node :=
  match path.toList with
  | '$' :: rest => editSteps mode x (rest.length + 1) v rest
  | _ => .error ()

/-- Merges a patch into a document as RFC 7396 says: members of an object patch replace or (when
null) remove members, recursively; any other patch replaces the document. -/
def patch : Nat → Node → Node → Node
  | 0, _, p => p
  | fuel + 1, v, p =>
    match p with
    | .object pms =>
      let base := match v with
        | .object ms => ms
        | _ => []
      .object (pms.foldl (fun ms (k, pv) =>
        match ms.findIdx? fun (k2, _) => decode k2 == decode k with
        | some i =>
          match pv with
          | .null => ms.eraseIdx i
          | _ => ms.set i (k, patch fuel ((ms.getD i ("", .null)).2) pv)
        | none =>
          match pv with
          | .null => ms
          | _ => ms ++ [(k, patch fuel .null pv)]) base)
    | _ => p

/-- The path that `->` and `->>` read from their right operand: a path as written when it
starts with `$`, else an integer index (from the end when negative), a plain key, a bracketed
step, or a quoted key. -/
def abbreviatedPath (v : Value) : Option String :=
  match v with
  | .null => none
  | .integer n =>
    if n < 0 then some ("$[#" ++ toString n ++ "]") else some ("$[" ++ toString n ++ "]")
  | v =>
    let s := v.asText
    if s.startsWith "$" then some s
    else if s.toList.all (fun c => c.isAlphanum || c == '_') then some ("$." ++ s)
    else if s.startsWith "[" && s.length ≥ 3 && s.endsWith "]" then some ("$" ++ s)
    else some ("$.\"" ++ s ++ "\"")

end Json

end Sql

end TelemetryBridge
