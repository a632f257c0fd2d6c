import TelemetryBridge.Sql.Syntax
import TelemetryBridge.Text.Bytes

/-!
# Reading statement text into tokens

Statement text is cut into tokens by the longest match at each place:

* blanks and comments (`-- …` to the end of the line, `/* … */`) separate tokens;
* a word starts with a letter, `_` or a character beyond ASCII and goes on with those, digits
  and `$`;
* `'…'` is a text literal, `"…"`, `[…]` and backquotes are quoted names, a doubled quote
  standing for one;
* `X'…'` is a blob literal of an even number of hexadecimal digits;
* a number is decimal digits with an optional fraction and exponent, or `0x` and hexadecimal
  digits; `_` may stand among the digits of each part, and is checked when the number is read;
  a number running into a word character is no token;
* a parameter is `?` and decimal digits, or `:`, `@`, `$` or `#` and a word (a `$` word may end
  in a bracketed suffix and hold `::`); without a word it is no token;
* the operators are `-> ->> || * / % + - << >> & | < <= > >= = == != <> ~`, and `( ) , ; .`
  punctuate.

Text that is no token (an unterminated quote, a stray character) becomes an `illegal` token, so
that the statements before it can still run; the statement that reaches it fails. A `NUL`
character ends the text.

Main definition: `Sql.tokenize`.
-/

namespace TelemetryBridge

namespace Sql

namespace Lex

/-- A decimal digit. -/
def isDigit (c : Char) : Bool := '0' ≤ c && c ≤ '9'

/-- A hexadecimal digit. -/
def isHex (c : Char) : Bool := isDigit c || ('a' ≤ c && c ≤ 'f') || ('A' ≤ c && c ≤ 'F')

/-- A character that may start a word. -/
def isWordStart (c : Char) : Bool :=
  ('a' ≤ c && c ≤ 'z') || ('A' ≤ c && c ≤ 'Z') || c == '_' || c.toNat ≥ 128

/-- A character that may go on in a word. -/
def isWordChar (c : Char) : Bool := isWordStart c || isDigit c || c == '$'

/-- A blank between tokens. -/
def isSpace (c : Char) : Bool :=
  c == ' ' || c == '\t' || c == '\n' || c == Char.ofNat 12 || c == '\r'

/-- The value of a hexadecimal digit. -/
def hexValue (c : Char) : Nat :=
  if isDigit c then c.toNat - 48
  else if 'a' ≤ c && c ≤ 'f' then c.toNat - 87
  else c.toNat - 55

/-- Reads quoted text up to the closing `q`, a doubled `q` standing for one: the text and what
follows the closing quote, or `none` when the text ends first. -/
def quotedRun (q : Char) : List Char → List Char → Option (List Char × List Char)
  | [], _ => none
  | c :: rest, acc =>
    if c == q then
      match rest with
      | c2 :: rest2 => if c2 == q then quotedRun q rest2 (q :: acc) else some (acc.reverse, rest)
      | [] => some (acc.reverse, [])
    else quotedRun q rest (c :: acc)

/-- Skips a block comment after its opening mark: what follows its end (nothing when it is
not closed). -/
def afterBlockComment : List Char → List Char
  | [] => []
  | '*' :: '/' :: rest => rest
  | _ :: rest => afterBlockComment rest

/-- A decimal digit or the digit separator `_`. -/
def isDigitOrMark (c : Char) : Bool := isDigit c || c == '_'

/-- A hexadecimal digit or the digit separator `_`. -/
def isHexOrMark (c : Char) : Bool := isHex c || c == '_'

/-- The length of a number at the start of the text, and whether it runs into a word
character (which makes it no token). -/
def numberLength (cs : List Char) : Nat × Bool :=
  let body : Nat :=
    match cs with
    | '0' :: x :: h :: rest =>
      if (x == 'x' || x == 'X') && isHex h then 3 + (rest.takeWhile isHexOrMark).length
      else 0
    | _ => 0
  let body := if body > 0 then body else
    let whole := (cs.takeWhile isDigitOrMark).length
    let r := cs.drop whole
    let frac := match r with
      | '.' :: r' => 1 + (r'.takeWhile isDigitOrMark).length
      | _ => 0
    let r := r.drop frac
    let exp := match r with
      | e :: d :: r' =>
        if e == 'e' || e == 'E' then
          if isDigit d then 2 + (r'.takeWhile isDigitOrMark).length
          else if (d == '+' || d == '-') && (r'.head?.map isDigit).getD false then
            2 + (r'.takeWhile isDigitOrMark).length
          else 0
        else 0
      | _ => 0
    whole + frac + exp
  let tail := ((cs.drop body).takeWhile isWordChar).length
  (body + tail, tail > 0)

/-- The length of a named parameter after its mark, and whether it is a token: a word, which
may hold `::` and may end in a bracketed suffix without blanks. -/
def parameterLength : Nat → List Char → Nat → Nat × Bool
  | 0, _, n => (n, n > 0)
  | _, [], n => (n, n > 0)
  | fuel + 1, c :: rest, n =>
    if isWordChar c then
      let (k, ok) := parameterLength fuel rest (n + 1)
      (k + 1, ok)
    else if c == '(' && n > 0 then
      let inside := rest.takeWhile fun d => !isSpace d && d != ')'
      if (rest.drop inside.length).head? == some ')' then (inside.length + 2, true)
      else (inside.length + 1, false)
    else if c == ':' && rest.head? == some ':' then
      let (k, ok) := parameterLength fuel rest.tail n
      (k + 2, ok)
    else (0, n > 0)

/-- The operators, longest first. -/
def operators : List String :=
  ["->>", "->", "||", "<<", ">>", "<=", ">=", "==", "!=", "<>", "*", "/", "%", "+", "-", "&", "|", "<", ">",
    "=", "~", "(", ")", ",", ";", "."]

/-- Cuts text into tokens; `fuel` bounds the number of tokens and skipped pieces, and `gap`
gathers the blanks and comments before the next token. -/
def lexemes : Nat → List Char → List Char → List Lexeme → List Lexeme
  | 0, _, _, acc => acc.reverse
  | _, [], _, acc => acc.reverse
  | fuel + 1, c :: rest, gap, acc =>
    let emit (t : Token) (n : Nat) (after : List Char) :=
      lexemes fuel after [] (⟨t, String.ofList ((c :: rest).take n), String.ofList gap.reverse⟩ :: acc)
    if isSpace c then lexemes fuel rest (c :: gap) acc
    else if c == '-' && rest.head? == some '-' then
      let line := rest.takeWhile (· != '\n')
      lexemes fuel (rest.drop line.length) ((c :: line).reverse ++ gap) acc
    else if c == '/' && rest.head? == some '*' then
      let after := afterBlockComment rest.tail
      let skipped := (c :: rest).take (rest.length + 1 - after.length)
      lexemes fuel after (skipped.reverse ++ gap) acc
    else if c == Char.ofNat 39 then
      match quotedRun c rest [] with
      | some (t, after) => emit (.str (String.ofList t)) (rest.length + 1 - after.length) after
      | none => emit .illegal (rest.length + 1) []
    else if c == '"' || c == Char.ofNat 96 then
      match quotedRun c rest [] with
      | some (t, after) =>
        emit (.quoted (String.ofList t) (c == '"')) (rest.length + 1 - after.length) after
      | none => emit .illegal (rest.length + 1) []
    else if c == '[' then
      let inside := rest.takeWhile (· != ']')
      if inside.length < rest.length then
        emit (.quoted (String.ofList inside) false) (inside.length + 2)
          (rest.drop (inside.length + 1))
      else emit .illegal (rest.length + 1) []
    else if (c == 'x' || c == 'X') && rest.head? == some (Char.ofNat 39) then
      let digits := rest.tail.takeWhile isHex
      let after := rest.tail.drop digits.length
      if after.head? == some (Char.ofNat 39) && digits.length % 2 == 0 then
        let pairs := (List.range (digits.length / 2)).map fun i =>
          UInt8.ofNat (16 * hexValue (digits.getD (2 * i) '0') +
            hexValue (digits.getD (2 * i + 1) '0'))
        emit (.blob pairs) (digits.length + 3) after.tail
      else
        let upto := after.takeWhile (· != Char.ofNat 39)
        let n := digits.length + 2 + upto.length + (if upto.length < after.length then 1 else 0)
        emit .illegal n ((c :: rest).drop n)
    else if isWordStart c then
      let w := c :: rest.takeWhile isWordChar
      emit (.word (String.ofList w)) w.length (rest.drop (w.length - 1))
    else if c == '?' then
      let n := 1 + (rest.takeWhile isDigit).length
      emit (.variable (String.ofList ((c :: rest).take n))) n ((c :: rest).drop n)
    else if c == ':' || c == '@' || c == '$' || c == '#' then
      let (k, ok) := parameterLength rest.length rest 0
      let text := String.ofList ((c :: rest).take (k + 1))
      emit (if ok then .variable text else .illegal) (k + 1) (rest.drop k)
    else if isDigit c || (c == '.' && (rest.head?.map isDigit).getD false) then
      let (n, bad) := numberLength (c :: rest)
      let t := String.ofList ((c :: rest).take n)
      emit (if bad then .illegal else .num t) n ((c :: rest).drop n)
    else
      match operators.find? fun o => o.toList.isPrefixOf (c :: rest) with
      | some o => emit (.op o) o.length ((c :: rest).drop o.length)
      | none => emit .illegal 1 rest

end Lex

/-- The tokens of statement text. The text ends at its first `NUL`, as a C string does: what
follows it is never read. -/
def tokenize (text : String) : List Lexeme :=
  Lex.lexemes (text.length + 1) (text.toList.takeWhile (· != '\x00')) [] []

end Sql

end TelemetryBridge
