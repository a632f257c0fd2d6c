import TelemetryBridge.Sql.Value
import TelemetryBridge.Decimal.Scaled

/-!
# Formatted text

`printf(format, …)` (also called `format`) writes its arguments by the directives of a format
text, in the manner of C's `printf`. A directive is `%`, then flags, a width, a precision and a
conversion character:

* flags: `-` (left-justify), `+` or a blank (sign of positive numbers), `#` (alternate form),
  `!` (second alternate form: more digits for doubles, characters instead of bytes for texts),
  `0` (zero padding), `,` (thousands separators);
* a width and a precision are digits, or `*` for the next argument as an integer;
* `d i u` decimal integers, `x X o` hexadecimal and octal, `r` ordinals (`1st`, `22nd`),
  `p` hexadecimal; `f e E g G` doubles; `s z` texts; `c` the first character of a text, repeated
  `precision` times; `q Q w` texts quoted for SQL (`Q` also encloses in quotes, `NULL` for null);
  `n` nothing; `%%` a percent sign.

An argument that is missing is `0`, `0.0` or null. A conversion character the list does not
have ends the output there. Widths and precisions count bytes.

Doubles are written from their digits in `Decimal.Scaled`: at most sixteen significant digits,
or twenty-six with `!`.

Main definitions: `Sql.Format.Directive`, `Sql.Format.render`.
-/

namespace TelemetryBridge

namespace Sql

namespace Format

/-- The bytes of a value as text: integers in decimal, doubles with fifteen significant digits,
texts as UTF-8 and blobs as they are; `none` for null. -/
def textBytes : Value → Option Bytes
  | .null => none
  | .integer n => some (Bytes.ofInt n)
  | .real x => some (Bytes.ofString (realText x))
  | .text s => some (Bytes.ofString s)
  | .blob b => some b

/-- The flags, width and precision of a directive. -/
structure Directive where
  leftJustify : Bool := false
  /-- The sign written before a positive number: `+`, a blank, or none. -/
  sign : Option UInt8 := none
  alternate : Bool := false
  secondAlternate : Bool := false
  zeroPad : Bool := false
  thousands : Bool := false
  width : Nat := 0
  precision : Option Nat := none
  deriving Inhabited

/-- The arguments not used yet. -/
abbrev Args := List Value

/-- The next argument as an integer (`0` when missing). -/
def nextInt (args : Args) : Int × Args :=
  match args with
  | v :: rest => (v.intValue, rest)
  | [] => (0, [])

/-- The next argument as a double (`0.0` when missing). -/
def nextReal (args : Args) : Float × Args :=
  match args with
  | v :: rest => (v.realValue, rest)
  | [] => (0, [])

/-- The next argument as text bytes, cut at the first zero byte (`none` when missing or null). -/
def nextText (args : Args) : Option Bytes × Args :=
  match args with
  | v :: rest => ((textBytes v).map (·.takeWhile (· != 0)), rest)
  | [] => (none, [])

/-- The bytes of an ASCII text. -/
def ascii (s : String) : Bytes := Bytes.ofString s

/-- Digits of a natural number in a base, with upper- or lower-case letters. -/
def digitsIn (base : Nat) (upperCase : Bool) (n : Nat) : Bytes :=
  let digit (d : Nat) : UInt8 :=
    if d < 10 then (48 + d).toUInt8 else ((if upperCase then 55 else 87) + d).toUInt8
  (Nat.toDigitsCore base (n + 1) n []).map fun c => digit (if c.isDigit then c.toNat - 48 else c.toNat - 87)

/-- Inserts a comma between groups of three digits, counted from the right. -/
def groupThousands (ds : Bytes) : Bytes :=
  let n := ds.length
  (List.range n).foldl (fun acc i =>
    let d := ds.getD i 0
    if i > 0 && (n - i) % 3 == 0 then acc ++ [44, d] else acc ++ [d]) []

/-- The ordinal suffix of a number: `st`, `nd`, `rd` or `th`. -/
def ordinalSuffix (n : Nat) : Bytes :=
  let x := n % 10
  let x := if x ≥ 4 || (n / 10) % 10 == 1 then 0 else x
  ascii (match x with
    | 1 => "st"
    | 2 => "nd"
    | 3 => "rd"
    | _ => "th")

/-- An integer conversion: `d i r` signed, `u o x X p` unsigned (the 64-bit pattern). -/
def integer (d : Directive) (conv : Char) (v : Int) : Bytes :=
  let signed := conv == 'd' || conv == 'i' || conv == 'r'
  let (mag, signMark) : Nat × Option UInt8 :=
    if signed then (if v < 0 then ((-v).toNat, some 45) else (v.toNat, d.sign))
    else ((v % 2 ^ 64).toNat, none)
  let base := if conv == 'o' then 8 else if conv == 'x' || conv == 'X' || conv == 'p' then 16 else 10
  let alternate := d.alternate && mag != 0
  let thousands := d.thousands && (conv == 'd' || conv == 'i' || conv == 'u')
  let precision : Nat := d.precision.getD 0
  let signLength := if signMark.isSome then 1 else 0
  let precision := if d.zeroPad && precision + signLength < d.width then d.width - signLength
    else precision
  let body := digitsIn base (conv != 'x') mag ++ (if conv == 'r' then ordinalSuffix mag else [])
  let body := List.replicate (precision - body.length) 48 ++ body
  let body := if thousands then groupThousands body else body
  let body := (match signMark with
    | some p => [p]
    | none => []) ++ body
  let marker : Bytes := if !alternate then []
    else match conv with
      | 'o' => ascii "0"
      | 'x' | 'p' => ascii "0x"
      | 'X' => ascii "0X"
      | _ => []
  marker ++ body

/-- A double conversion: `f` positional, `e E` with an exponent, `g G` whichever is shorter
for the precision. -/
def real (d : Directive) (conv : Char) (x : Float) : Bytes :=
  let precision : Nat := d.precision.getD 6
  let generic := conv == 'g' || conv == 'G'
  let expMark : UInt8 := if conv == 'E' || conv == 'G' then 69 else 101
  let precision := if generic && precision == 0 then 1 else precision
  let target : Int :=
    if conv == 'f' then -(precision : Int) else if generic then precision else precision + 1
  match Decimal.Scaled.ofFloat x target (if d.secondAlternate then 26 else 16) with
  | .notANumber => ascii (if d.zeroPad then "null" else "NaN")
  | .infinite neg =>
    if d.zeroPad then
      body d (if neg then some 45 else d.sign) ['9'] 1000 generic expMark conv precision
    else
      if neg then ascii "-Inf"
      else match d.sign with
        | some p => p :: ascii "Inf"
        | none => ascii "Inf"
  | .digits neg ds point =>
    body d (if neg then some 45 else d.sign) ds point generic expMark conv precision
where
  body (d : Directive) (signMark : Option UInt8) (ds : List Char) (point : Int) (generic : Bool)
      (expMark : UInt8) (conv : Char) (precision : Nat) : Bytes :=
    let exp := point - 1
    let (useExp, precision, removeZeros) : Bool × Nat × Bool :=
      if generic then
        let p := precision - 1
        if exp < -4 || exp > p then (true, p, !d.alternate)
        else (false, (p - exp).toNat, !d.alternate)
      else (conv == 'e' || conv == 'E', precision, d.secondAlternate)
    let digitAt (j : Nat) : UInt8 := (ds.getD j '0').toNat.toUInt8
    let e2 : Int := if useExp then 0 else point - 1
    let showPoint := precision > 0 || d.alternate || d.secondAlternate
    -- digits before the point
    let (whole, used) : Bytes × Nat :=
      if e2 < 0 then ([48], 0)
      else
        (List.range (e2.toNat + 1)).foldl (fun (acc : Bytes × Nat) k =>
          let left := e2.toNat - k
          let acc := (acc.1 ++ [digitAt acc.2], acc.2 + 1)
          if d.thousands && left % 3 == 0 && left > 1 then (acc.1 ++ [44], acc.2) else acc)
          ([], 0)
    let leadingZeros : Nat := if e2 < 0 then min ((-(e2 + 1)).toNat) precision else 0
    let rest := precision - leadingZeros
    let frac : Bytes := List.replicate leadingZeros 48 ++
      (List.range rest).map fun k => digitAt (used + k)
    let text := whole ++ (if showPoint then [46] else []) ++ frac
    let text :=
      if removeZeros && showPoint then
        let t := text.reverse.dropWhile (· == 48)
        match t with
        | 46 :: more => if d.secondAlternate then (48 :: 46 :: more).reverse else more.reverse
        | _ => t.reverse
      else text
    let text :=
      if useExp then
        let e := point - 1
        let a := e.natAbs
        text ++ [expMark, if e < 0 then 45 else 43] ++
          (if a ≥ 100 then [(48 + a / 100).toUInt8] else []) ++
          [(48 + (a % 100) / 10).toUInt8, (48 + a % 10).toUInt8]
      else text
    let signed := (match signMark with
      | some p => [p]
      | none => []) ++ text
    if d.zeroPad && !d.leftJustify && signed.length < d.width then
      let pad := List.replicate (d.width - signed.length) (48 : UInt8)
      match signMark with
      | some p => p :: pad ++ text
      | none => pad ++ text
    else signed

/-- The number of continuation bytes of a byte string, by which a width in characters exceeds
the same width in bytes. -/
def continuationBytes (bs : Bytes) : Nat := (bs.filter fun b => b &&& 0xc0 == 0x80).length

/-- The bytes of a text cut to a precision: bytes, or characters under `!`. -/
def cut (d : Directive) (bs : Bytes) : Bytes :=
  match d.precision with
  | none => bs
  | some p =>
    if d.secondAlternate then
      let chars := (List.range bs.length).filter fun i =>
        i == 0 || (bs.getD i 0) &&& 0xc0 != 0x80
      match chars.drop p with
      | i :: _ => bs.take i
      | [] => bs
    else bs.take p

/-- A byte of a text as a call of `unistr` writes it: a control character as `\u00XX`, a
backslash doubled, others as they are. -/
def unistrEscape (b : UInt8) : Bytes :=
  if b == 92 then [92, 92]
  else if b ≤ 0x1f then
    [92, 117, 48, 48, if b ≥ 0x10 then 49 else 48, (ascii "0123456789abcdef").getD (b &&& 0xf).toNat 48]
  else [b]

/-- A `q`, `Q` or `w` conversion: the text with its quote character doubled. Under `#`, `q`
also escapes control characters and backslashes as `unistr` reads them, and `Q` does so when
the text has a control character, writing the result as a call of `unistr`. -/
def quoted (d : Directive) (conv : Char) (arg : Option Bytes) : Bytes :=
  let q : UInt8 := if conv == 'w' then 34 else 39
  let text := arg.getD (ascii (if conv == 'Q' then "NULL" else "(NULL)"))
  let text := cut d text
  let escaping := d.alternate && conv != 'w' && (conv == 'q' || text.any (· ≤ 0x1f))
  let body := text.flatMap fun b =>
    if b == q then [b, b] else if escaping then unistrEscape b else [b]
  if conv == 'Q' && arg.isSome then
    if escaping then ascii "unistr('" ++ body ++ ascii "')" else q :: body ++ [q]
  else body

/-- Pads a converted field to the width, on the left or (left-justified) on the right. -/
def pad (d : Directive) (width : Nat) (field : Bytes) : Bytes :=
  if width > field.length then
    let blanks := List.replicate (width - field.length) (32 : UInt8)
    if d.leftJustify then field ++ blanks else blanks ++ field
  else field

/-- The longest text a formatted value may have. -/
def maxLength : Nat := 1000000000

/-- Reads the flags, width and precision of a directive after its `%`: the directive, the
conversion character (none when the format ends first), the rest of the format and the
arguments left. -/
def directive (fuel : Nat) (fmt : Bytes) (args : Args) :
    Directive × Option Char × Bytes × Args :=
  go fuel {} fmt args
where
  go : Nat → Directive → Bytes → Args → Directive × Option Char × Bytes × Args
    | 0, d, fmt, args => (d, none, fmt, args)
    | fuel + 1, d, fmt, args =>
      match fmt with
      | [] => (d, none, [], args)
      | c :: rest =>
        match Char.ofNat c.toNat with
        | '-' => go fuel { d with leftJustify := true } rest args
        | '+' => go fuel { d with sign := some 43 } rest args
        | ' ' => go fuel { d with sign := some 32 } rest args
        | '#' => go fuel { d with alternate := true } rest args
        | '!' => go fuel { d with secondAlternate := true } rest args
        | '0' => go fuel { d with zeroPad := true } rest args
        | ',' => go fuel { d with thousands := true } rest args
        | 'l' =>
          let rest := match rest with
            | 108 :: more => more
            | more => more
          finish d rest args
        | '*' =>
          let (w, args) := nextInt args
          let d := if w < 0 then { d with leftJustify := true, width := (-w).toNat }
            else { d with width := w.toNat }
          match rest with
          | 46 :: _ | 108 :: _ => go fuel d rest args
          | _ => finish d rest args
        | '.' =>
          match rest with
          | 42 :: more =>
            let (p, args) := nextInt args
            let d := { d with precision := some p.natAbs }
            match more with
            | 108 :: _ => go fuel d more args
            | _ => finish d more args
          | _ =>
            let ds := rest.takeWhile Bytes.isDigit
            let more := rest.drop ds.length
            let d := { d with precision := some (Bytes.digitsValue ds % 2 ^ 31) }
            match more with
            | 108 :: _ => go fuel d more args
            | _ => finish d more args
        | ch =>
          if '1' ≤ ch && ch ≤ '9' then
            let ds := fmt.takeWhile Bytes.isDigit
            let more := fmt.drop ds.length
            let d := { d with width := Bytes.digitsValue ds % 2 ^ 31 }
            match more with
            | 46 :: _ | 108 :: _ => go fuel d more args
            | _ => finish d more args
          else (d, some ch, rest, args)
  finish (d : Directive) (fmt : Bytes) (args : Args) : Directive × Option Char × Bytes × Args :=
    match fmt with
    | c :: rest => (d, some (Char.ofNat c.toNat), rest, args)
    | [] => (d, none, [], args)

/-- The field a conversion writes and the width it is padded to, with the arguments left;
`none` ends the output. -/
def convert (d : Directive) (conv : Char) (args : Args) : Option (Bytes × Nat × Args) :=
  match conv with
  | 'd' | 'i' | 'u' | 'o' | 'x' | 'X' | 'p' | 'r' =>
    let (v, args) := nextInt args
    let d := if conv == 'd' || conv == 'i' || conv == 'u' then d else { d with thousands := false }
    some (integer d conv v, d.width, args)
  | 'f' | 'e' | 'E' | 'g' | 'G' =>
    let (x, args) := nextReal args
    some (real d conv x, d.width, args)
  | 'n' => some ([], 0, args)
  | '%' => some ([37], d.width, args)
  | 'c' =>
    let (t, args) := nextText args
    let ch : Bytes := match t with
      | some (b :: more) =>
        if b &&& 0xc0 == 0xc0 then b :: (more.takeWhile (fun x => x &&& 0xc0 == 0x80)).take 3
        else [b]
      | _ => [0]
    let copies := match d.precision with
      | some p => if p > 1 then p else 1
      | none => 1
    let field := (List.replicate copies ch).flatten
    some (field, d.width + continuationBytes field, args)
  | 's' | 'z' =>
    let (t, args) := nextText args
    let field := cut d (t.getD [])
    some (field, d.width + (if d.secondAlternate && d.width > 0 then continuationBytes field else 0),
      args)
  | 'q' | 'Q' | 'w' =>
    let (t, args) := nextText args
    let field := quoted d conv t
    some (field, d.width + (if d.secondAlternate && d.width > 0 then continuationBytes field else 0),
      args)
  | _ => none

/-- Writes a format with arguments; fails when the text grows too long. -/
def render (fmt : Bytes) (args : Args) : Except String Bytes :=
  go (fmt.length + 1) (fmt.takeWhile (· != 0)) args []
where
  go : Nat → Bytes → Args → Bytes → Except String Bytes
    | 0, _, _, out => .ok out
    | fuel + 1, fmt, args, out =>
      let lit := fmt.takeWhile (· != 37)
      let out := out ++ lit
      match fmt.drop lit.length with
      | [] => .ok out
      | _ :: [] => .ok (out ++ [37])
      | _ :: rest =>
        match directive (rest.length + 1) rest args with
        | (_, none, _, _) => .ok out
        | (d, some conv, more, args) =>
          if d.width > maxLength || (d.precision.getD 0) > maxLength then .error "string or blob too big"
          else
            match convert d conv args with
            | none => .ok out
            | some (field, width, args) =>
              let out := out ++ pad d width field
              if out.length > maxLength then .error "string or blob too big"
              else go fuel more args out

end Format

end Sql

end TelemetryBridge
