import TelemetryBridge.Yaml.Fault
import TelemetryBridge.Yaml.Source
import TelemetryBridge.Yaml.Token
import Std.Data.HashMap

/-!
# The tokenizer's state

The tokenizer walks the characters of a source and keeps a queue of tokens that the grammar
takes from the front. Around the walk it keeps:

* the *indentation*: the column of each open block collection, innermost first;
* the *flow level*: how many flow collections are open;
* per flow level, the *possible simple key*: a token that turns out to be a key when a `:`
  follows it on the same line within 1024 characters. A key that stands at the column of the
  open block mapping is *required*: if no `:` follows, the text is refused;
* whether a simple key may start at the current position.

Characters are asked for before they are looked at: asking for one past a refused block of the
source fails. Past the end of the source the tokenizer sees `'\x00'`.

Main definitions: `Yaml.Lexer`, `Yaml.Lex`, `Yaml.saveSimpleKey`, `Yaml.rollIndent`,
`Yaml.unrollIndent`.
-/

namespace TelemetryBridge

namespace Yaml

/-- A token that may turn out to be a key: whether it still may, whether it must, its number
in the queue and where it starts. -/
structure SimpleKey where
  possible : Bool := false
  required : Bool := false
  number : Nat := 0
  mark : Mark := {}
  deriving Inhabited

/-- The state of the tokenizer. Tokens are numbered from the start of the stream; the token
numbered `head` is the next one the grammar takes. -/
structure Lexer where
  source : Source
  mark : Mark := {}
  /-- Line breaks passed since the last character that is not a blank. -/
  newlines : Nat := 0
  tokens : Array Token := #[]
  head : Nat := 0
  /-- Whether the queue holds enough tokens for the grammar to look at its front. -/
  ready : Bool := false
  indent : Int := -1
  indents : List Int := []
  keyAllowed : Bool := false
  /-- The possible simple key of each flow level, the current one last. -/
  keys : Array SimpleKey := #[]
  /-- The flow level of the possible simple key that each token number starts. -/
  keyLevels : Std.HashMap Nat Nat := {}
  flowLevel : Nat := 0
  started : Bool := false
  /-- Whether the grammar has taken the end of the stream. -/
  finished : Bool := false
  deriving Inhabited

/-- Tokenizing: a step on the tokenizer's state that may refuse the text. -/
abbrev Lex := StateT Lexer (Except Fault)

namespace Lexer

/-- The character `k` places after the current one; `'\x00'` past the end. -/
def charAt (l : Lexer) (k : Nat) : Char := l.source.chars.getD (l.mark.index + k) '\x00'

/-- A bound on the steps of a loop that moves through the rest of the text. -/
def budget (l : Lexer) : Nat := l.source.chars.size - l.mark.index + 8

end Lexer

/-- A space or a tab. -/
def isBlank (c : Char) : Bool := c == ' ' || c == '\t'

/-- A line break: line feed, carriage return, next line, line or paragraph separator. -/
def isBreak (c : Char) : Bool :=
  c == '\r' || c == '\n' || c == '\x85' || c == '\u2028' || c == '\u2029'

/-- A line break or the end of the text. -/
def isBreakZ (c : Char) : Bool := isBreak c || c == '\x00'

/-- A blank, a line break or the end of the text. -/
def isBlankZ (c : Char) : Bool := isBlank c || isBreakZ c

/-- A character of a name: an ASCII letter or digit, `_` or `-`. -/
def isWordChar (c : Char) : Bool := c.isAlphanum || c == '_' || c == '-'

/-- The value of a hexadecimal digit. -/
def hexValue (c : Char) : Option Nat :=
  if '0' ≤ c ∧ c ≤ '9' then some (c.toNat - 48)
  else if 'a' ≤ c ∧ c ≤ 'f' then some (c.toNat - 87)
  else if 'A' ≤ c ∧ c ≤ 'F' then some (c.toNat - 55)
  else none

/-- Asks for the next `n` characters; fails when one of them lies past a refused block. -/
def need (n : Nat) : Lex Unit := do
  let l ← get
  if !l.source.whole && l.mark.index + n > l.source.chars.size then throw .undecodable

/-- The character `k` places after the current one. -/
def peekChar (k : Nat := 0) : Lex Char := do return (← get).charAt k

/-- Refuses the text while tokenizing. -/
def refuse {α : Type} (problem : String) : Lex α := throw (.token problem)

/-- Moves past one character of a line. -/
def skip : Lex Unit := modify fun l =>
  { l with
    newlines := if isBlank (l.charAt 0) then l.newlines else 0
    mark := { l.mark with index := l.mark.index + 1, column := l.mark.column + 1 } }

/-- Moves past a line break, `CR LF` counting as one. -/
def skipLine : Lex Unit := modify fun l =>
  let width := if l.charAt 0 == '\r' && l.charAt 1 == '\n' then 2
    else if isBreak (l.charAt 0) then 1 else 0
  if width == 0 then l
  else
    { l with
      newlines := l.newlines + 1
      mark := { index := l.mark.index + width, line := l.mark.line + 1, column := 0 } }

/-- Copies the current character onto a text and moves past it. -/
def copyChar (s : String) : Lex String := do
  let c ← peekChar
  skip
  return s.push c

/-- Copies the current line break onto a text and moves past it: a line feed for `CR LF`,
`CR`, `LF` and next line, the character itself for the line and paragraph separators. -/
def copyBreak (s : String) : Lex String := do
  let c ← peekChar
  if c == '\u2028' || c == '\u2029' then skipLine; return s.push c
  else if isBreak c then skipLine; return s.push '\n'
  else return s

/-- Adds a token at the end of the queue. -/
def pushToken (t : Token) : Lex Unit := modify fun l => { l with tokens := l.tokens.push t }

/-- Adds a token to the queue so that it gets number `n`. -/
def insertToken (n : Nat) (t : Token) : Lex Unit := modify fun l =>
  { l with tokens := l.tokens.insertIdxIfInBounds n t }

/-! ## Simple keys -/

/-- Whether the possible simple key of flow level `i` is still possible: it must start on the
current line at most 1024 characters back. A required key that is no longer possible refuses
the text. -/
def keyIsValid (i : Nat) : Lex Bool := do
  let l ← get
  let k := l.keys.getD i {}
  if !k.possible then return false
  if k.mark.line < l.mark.line || k.mark.index + 1024 < l.mark.index then
    if k.required then refuse "could not find expected ':'"
    modify fun l => { l with keys := l.keys.modify i ({ · with possible := false }) }
    return false
  return true

/-- Drops the possible simple key of the current flow level; a required one refuses the text. -/
def removeSimpleKey : Lex Unit := do
  let l ← get
  let i := l.keys.size - 1
  match l.keys[i]? with
  | some k =>
    if k.possible then
      if k.required then refuse "could not find expected ':'"
      modify fun l => { l with
        keys := l.keys.modify i ({ · with possible := false })
        keyLevels := l.keyLevels.erase k.number }
  | none => pure ()

/-- Records that the next token may be a simple key, when one is allowed here. It is required
in block context at the column of the open block collection. -/
def saveSimpleKey : Lex Unit := do
  let l ← get
  if l.keyAllowed then
    let key : SimpleKey :=
      { possible := true
        required := l.flowLevel == 0 && l.indent == (l.mark.column : Int)
        number := l.tokens.size
        mark := l.mark }
    removeSimpleKey
    modify fun l =>
      let i := l.keys.size - 1
      { l with
        keys := l.keys.modify i fun _ => key
        keyLevels := l.keyLevels.insert key.number i }

/-- Opens a flow level, with no possible simple key yet. -/
def increaseFlowLevel : Lex Unit := do
  modify fun l => { l with keys := l.keys.push { mark := l.mark }, flowLevel := l.flowLevel + 1 }
  if (← get).flowLevel > 10000 then refuse "exceeded max depth of 10000"

/-- Closes a flow level with its possible simple key. -/
def decreaseFlowLevel : Lex Unit := modify fun l =>
  if l.flowLevel > 0 then
    let number := (l.keys.back?.map (·.number)).getD 0
    { l with
      flowLevel := l.flowLevel - 1
      keys := l.keys.pop
      keyLevels := l.keyLevels.erase number }
  else l

/-! ## Indentation -/

/-- In block context, opens a block collection at `column` when it lies right of the current
indentation: pushes the indentation and adds the collection's start token, as number `number` or
at the end of the queue. -/
def rollIndent (column : Int) (number : Option Nat) (t : Token) : Lex Unit := do
  let l ← get
  if l.flowLevel == 0 && l.indent < column then
    modify fun l => { l with indents := l.indent :: l.indents, indent := column }
    if (← get).indents.length > 10000 then refuse "exceeded max depth of 10000"
    match number with
    | some n => insertToken n t
    | none => pushToken t

/-- In block context, closes every block collection indented right of `column`, adding a
`blockEnd` token for each. -/
def unrollIndent (column : Int) : Lex Unit := do
  if (← get).flowLevel > 0 then return
  for _ in [0:(← get).indents.length] do
    let l ← get
    match l.indents with
    | i :: rest =>
      if l.indent > column then
        modify fun l => { l with tokens := l.tokens.push .blockEnd, indent := i, indents := rest }
      else break
    | [] => break

/-! ## Comments -/

/-- Moves past the characters up to the one at index `seen` and past the rest of that line,
up to its line break. -/
def passComment (seen : Nat) : Lex Unit := do
  for _ in [0:(← get).budget] do
    need 1
    let l ← get
    if isBreakZ (l.charAt 0) then
      if l.mark.index ≥ seen then break
      need 2
      skipLine
    else skip

/-- Moves past the comment lines that start here, with the blank lines between them, up to the
line break that ends the last one. Each look ahead asks for the characters it looks at. -/
def scanComments : Lex Unit := do
  let mut peek := 0
  for _ in [0:2 * (← get).budget + 1024] do
    if peek ≥ 512 then break
    need (peek + 1)
    let l ← get
    let c := l.charAt peek
    if isBlank c then
      peek := peek + 1
    else if (l.flowLevel > 0 && (c == ']' || c == '}')) || isBreakZ c then
      if !isBreak c then break
      peek := peek + 1
    else if c != '#' then break
    else
      passComment (l.mark.index + peek)
      peek := 1

/-- Moves past a comment that follows on the current line, after blanks only, unless a line
break was passed since the last token character. -/
def scanLineComment : Lex Unit := do
  if (← get).newlines > 0 then return
  for peek in [0:512] do
    need (peek + 1)
    let l ← get
    let c := l.charAt peek
    if isBlank c then continue
    if c == '#' then passComment (l.mark.index + peek)
    break

end Yaml

end TelemetryBridge
