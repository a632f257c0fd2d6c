import TelemetryBridge.Yaml.Token.Lexer

/-!
# Scanning scalars

Scalars come in five styles, each with its own rules for line breaks:

* a *plain* scalar runs until `: ` or ` #`, and in flow context until a flow indicator (or a
  `:` before one); it continues on following lines indented past the open block collection;
* a *single-quoted* scalar doubles its quote to hold one;
* a *double-quoted* scalar has backslash escapes, and a backslash before a line break joins the
  lines without a space;
* a *literal* block scalar (`|`) keeps its line breaks; a *folded* one (`>`) joins lines with a
  space unless they are indented further or empty. Both take their indentation from the first
  line with content (or from an indicator digit) and end, after a chomping indicator (`-`
  strips the final line breaks, `+` keeps them all), at a line indented less.

In plain and quoted scalars a line break between two lines becomes a space, and each further
empty line a line feed; blanks around a break are dropped. A line or paragraph separator is
kept as it is, with the breaks after it. A quoted scalar may not hold a document marker at the
start of a line nor reach the end of the text.

Main definitions: `Yaml.scanFlowScalar`, `Yaml.scanPlainScalar`, `Yaml.scanBlockScalar`.
-/

namespace TelemetryBridge

namespace Yaml

/-- Whether a document marker (`---` or `...` before a blank) starts at the current position. -/
def Lexer.atDocumentMarker (l : Lexer) : Bool :=
  l.mark.column == 0 &&
    ((l.charAt 0 == '-' && l.charAt 1 == '-' && l.charAt 2 == '-') ||
      (l.charAt 0 == '.' && l.charAt 1 == '.' && l.charAt 2 == '.')) &&
    isBlankZ (l.charAt 3)

/-- The characters that open and close flow collections and separate their entries. -/
def isFlowIndicator (c : Char) : Bool :=
  c == ',' || c == '[' || c == ']' || c == '{' || c == '}'

/-- What a backslash escape stands for: its text, or the number of hexadecimal digits of a
code point that follows. -/
def escapeOf (c : Char) : Option (String × Nat) :=
  match c with
  | '0' => some ("\x00", 0)
  | 'a' => some ("\x07", 0)
  | 'b' => some ("\x08", 0)
  | 't' => some ("\t", 0)
  | '\t' => some ("\t", 0)
  | 'n' => some ("\n", 0)
  | 'v' => some ("\x0B", 0)
  | 'f' => some ("\x0C", 0)
  | 'r' => some ("\r", 0)
  | 'e' => some ("\x1B", 0)
  | ' ' => some (" ", 0)
  | '"' => some ("\"", 0)
  | '/' => none
  | '\\' => some ("\\", 0)
  | 'N' => some ("\x85", 0)
  | '_' => some ("\xA0", 0)
  | 'L' => some ("\u2028", 0)
  | 'P' => some ("\u2029", 0)
  | 'x' => some ("", 2)
  | 'u' => some ("", 4)
  | 'U' => some ("", 8)
  | c => if c == Char.ofNat 39 then some (String.singleton c, 0) else none

/-- Joins the blanks or line breaks met between two pieces of a scalar onto its text: the
blanks as they are when no line break was met; else a space for a single line feed, the further
line breaks for more, and a separator with all its breaks. -/
def joinBreaks (s : String) (leadingBlanks : Bool) (whitespaces leadingBreak trailingBreaks : String) :
    String :=
  if leadingBlanks then
    if !leadingBreak.isEmpty && leadingBreak.front == '\n' then
      if trailingBreaks.isEmpty then s.push ' ' else s ++ trailingBreaks
    else s ++ leadingBreak ++ trailingBreaks
  else s ++ whitespaces

/-- Reads the code point of an escape: `n` hexadecimal digits, which must not name a
surrogate or lie past `U+10FFFF`. -/
def escapedCodePoint (n : Nat) : Lex Char := do
  need n
  let l ← get
  let mut value := 0
  for k in [0:n] do
    match hexValue (l.charAt k) with
    | some d => value := value * 16 + d
    | none => refuse "did not find expected hexdecimal number"
  if (0xD800 ≤ value && value ≤ 0xDFFF) || value > 0x10FFFF then
    refuse "found invalid Unicode character escape code"
  for _ in [0:n] do skip
  return Char.ofNat value

/-- Scans a quoted scalar, single-quoted when `single`, from its opening quote. -/
def scanFlowScalar (single : Bool) : Lex Token := do
  let quote := if single then Char.ofNat 39 else '"'
  skip
  let mut s := ""
  let mut leadingBreak := ""
  let mut trailingBreaks := ""
  let mut whitespaces := ""
  for _ in [0:(← get).budget] do
    need 4
    let l ← get
    if l.atDocumentMarker then refuse "found unexpected document indicator"
    if l.charAt 0 == '\x00' then refuse "found unexpected end of stream"
    let mut leadingBlanks := false
    for _ in [0:(← get).budget] do
      let l ← get
      let c := l.charAt 0
      if isBlankZ c then break
      if single && c == quote && l.charAt 1 == quote then
        s := s.push quote
        skip
        skip
      else if c == quote then break
      else if !single && c == '\\' && isBreak (l.charAt 1) then
        need 3
        skip
        skipLine
        leadingBlanks := true
        break
      else if !single && c == '\\' then
        match escapeOf (l.charAt 1) with
        | none => refuse "found unknown escape character"
        | some (text, digits) =>
          skip
          skip
          if digits == 0 then s := s ++ text
          else s := s.push (← escapedCodePoint digits)
      else s ← copyChar s
      need 2
    need 1
    if (← peekChar) == quote then break
    for _ in [0:(← get).budget] do
      let c ← peekChar
      if isBlank c then
        if !leadingBlanks then whitespaces ← copyChar whitespaces else skip
      else if isBreak c then
        need 2
        if !leadingBlanks then
          whitespaces := ""
          leadingBreak ← copyBreak leadingBreak
          leadingBlanks := true
        else trailingBreaks ← copyBreak trailingBreaks
      else break
      need 1
    s := joinBreaks s leadingBlanks whitespaces leadingBreak trailingBreaks
    whitespaces := ""
    leadingBreak := ""
    trailingBreaks := ""
  skip
  return .scalar s (if single then .singleQuoted else .doubleQuoted)

/-- Scans a plain scalar. Afterwards a simple key may follow when the scalar ended after a line
break. -/
def scanPlainScalar : Lex Token := do
  let indent := (← get).indent + 1
  let mut s := ""
  let mut leadingBreak := ""
  let mut trailingBreaks := ""
  let mut whitespaces := ""
  let mut leadingBlanks := false
  for _ in [0:(← get).budget] do
    need 4
    let l ← get
    if l.atDocumentMarker || l.charAt 0 == '#' then break
    for _ in [0:(← get).budget] do
      let l ← get
      let c := l.charAt 0
      if isBlankZ c then break
      if (c == ':' && isBlankZ (l.charAt 1)) ||
          (l.flowLevel > 0 && (isFlowIndicator c || (c == ':' && isFlowIndicator (l.charAt 1)))) then
        break
      if leadingBlanks || !whitespaces.isEmpty then
        s := joinBreaks s leadingBlanks whitespaces leadingBreak trailingBreaks
        whitespaces := ""
        leadingBreak := ""
        trailingBreaks := ""
        leadingBlanks := false
      s ← copyChar s
      need 2
    let c ← peekChar
    if !(isBlank c || isBreak c) then break
    need 1
    for _ in [0:(← get).budget] do
      let l ← get
      let c := l.charAt 0
      if isBlank c then
        if leadingBlanks && (l.mark.column : Int) < indent && c == '\t' then
          refuse "found a tab character that violates indentation"
        if !leadingBlanks then whitespaces ← copyChar whitespaces else skip
      else if isBreak c then
        need 2
        if !leadingBlanks then
          whitespaces := ""
          leadingBreak ← copyBreak leadingBreak
          leadingBlanks := true
        else trailingBreaks ← copyBreak trailingBreaks
      else break
      need 1
    let l ← get
    if l.flowLevel == 0 && (l.mark.column : Int) < indent then break
  if leadingBlanks then modify fun l => { l with keyAllowed := true }
  return .scalar s .plain

/-- Moves past the indentation and the empty lines before a line of a block scalar, copying
the line breaks. An indentation of zero is not yet known: it becomes the deepest indentation
among those lines, at least one more than the open block collection's and at least one. -/
def blockScalarBreaks (indent : Int) (breaks : String) : Lex (Int × String) := do
  let mut deepest : Nat := 0
  let mut breaks := breaks
  for _ in [0:(← get).budget] do
    need 1
    for _ in [0:(← get).budget] do
      let l ← get
      if (indent == 0 || (l.mark.column : Int) < indent) && l.charAt 0 == ' ' then
        skip
        need 1
      else break
    let l ← get
    if l.mark.column > deepest then deepest := l.mark.column
    if (indent == 0 || (l.mark.column : Int) < indent) && l.charAt 0 == '\t' then
      refuse "found a tab character where an indentation space is expected"
    if !isBreak (l.charAt 0) then break
    need 2
    breaks ← copyBreak breaks
  if indent == 0 then
    let nested := (← get).indent + 1
    return (max 1 (max (deepest : Int) nested), breaks)
  return (indent, breaks)

/-- Scans a literal (`|`) or folded (`>`) block scalar from its indicator. -/
def scanBlockScalar (literal : Bool) : Lex Token := do
  skip
  need 1
  let mut chomping : Int := 0
  let mut increment : Nat := 0
  let c ← peekChar
  if c == '+' || c == '-' then
    chomping := if c == '+' then 1 else -1
    skip
    need 1
    let d ← peekChar
    if d.isDigit then
      if d == '0' then refuse "found an indentation indicator equal to 0"
      increment := d.toNat - 48
      skip
  else if c.isDigit then
    if c == '0' then refuse "found an indentation indicator equal to 0"
    increment := c.toNat - 48
    skip
    need 1
    let d ← peekChar
    if d == '+' || d == '-' then
      chomping := if d == '+' then 1 else -1
      skip
  need 1
  for _ in [0:(← get).budget] do
    if isBlank (← peekChar) then
      skip
      need 1
    else break
  if (← peekChar) == '#' then
    scanLineComment
    for _ in [0:(← get).budget] do
      if isBreakZ (← peekChar) then break
      skip
      need 1
  if !isBreakZ (← peekChar) then refuse "did not find expected comment or line break"
  if isBreak (← peekChar) then
    need 2
    skipLine
  let outer := (← get).indent
  let mut indent : Int := 0
  if increment > 0 then indent := if outer ≥ 0 then outer + increment else increment
  let mut s := ""
  let mut leadingBreak := ""
  let mut trailingBreaks := ""
  (indent, trailingBreaks) ← blockScalarBreaks indent trailingBreaks
  need 1
  let mut leadingBlank := false
  for _ in [0:(← get).budget] do
    let l ← get
    if !((l.mark.column : Int) == indent && l.charAt 0 != '\x00') then break
    let trailingBlank := isBlank (l.charAt 0)
    if !literal && !leadingBlank && !trailingBlank && !leadingBreak.isEmpty &&
        leadingBreak.front == '\n' then
      if trailingBreaks.isEmpty then s := s.push ' '
    else s := s ++ leadingBreak
    leadingBreak := ""
    s := s ++ trailingBreaks
    trailingBreaks := ""
    leadingBlank := isBlank (l.charAt 0)
    for _ in [0:(← get).budget] do
      if isBreakZ (← peekChar) then break
      s ← copyChar s
      need 1
    need 2
    leadingBreak ← copyBreak leadingBreak
    (indent, trailingBreaks) ← blockScalarBreaks indent trailingBreaks
  if chomping != -1 then s := s ++ leadingBreak
  if chomping == 1 then s := s ++ trailingBreaks
  return .scalar s (if literal then .literal else .folded)

end Yaml

end TelemetryBridge
