import TelemetryBridge.Yaml.Token.Scalar

/-!
# The token queue

Tokens are fetched one at a time at the end of the queue, after the blanks, line breaks and
comments before them; a line break in block context allows a simple key again. Each fetch
first closes the block collections indented right of the token's column, then looks at the
first characters:

* at the start of a line, `%` starts a directive and `---` or `...` before a blank a document
  marker;
* `[`, `{`, `]`, `}`, `,` are flow indicators; `-` before a blank an entry of a block sequence;
  `?` and `:` are the key and value indicators before a blank, and anywhere in flow context;
* `*`, `&` and `!` start an alias, an anchor and a tag; `|` and `>` a block scalar in block
  context; quotes a quoted scalar;
* anything else that may start a plain scalar starts one; other characters refuse the text.

A `:` that follows a possible simple key makes that token a key: a `key` token goes in before
it, and in block context a `blockMappingStart` too when it opens a mapping.

The grammar looks at the front of the queue. Before it may, the queue must hold three tokens
past the front, and more as long as the front token may still turn out to be a key; so the
tokenizer reads a little past what the grammar has taken, and refuses a text for what it finds
there.

Main definitions: `Yaml.fetchNextToken`, `Yaml.peekToken`, `Yaml.skipToken`.
-/

namespace TelemetryBridge

namespace Yaml

/-- Moves past the blanks of a line. -/
def skipBlanks : Lex Unit := do
  need 1
  for _ in [0:(← get).budget] do
    if isBlank (← peekChar) then
      skip
      need 1
    else break

/-- Copies the characters of a name (letters, digits, `_`, `-`) onto a text. -/
def copyWord (s : String) : Lex String := do
  need 1
  let mut s := s
  for _ in [0:(← get).budget] do
    if isWordChar (← peekChar) then
      s ← copyChar s
      need 1
    else break
  return s

/-! ## Directives -/

/-- Scans one number of a `%YAML` directive: one or two digits. -/
def scanVersionNumber : Lex Nat := do
  need 1
  let mut value := 0
  let mut length := 0
  for _ in [0:(← get).budget] do
    let c ← peekChar
    if !c.isDigit then break
    length := length + 1
    if length > 2 then refuse "found extremely long version number"
    value := value * 10 + (c.toNat - 48)
    skip
    need 1
  if length == 0 then refuse "did not find expected version number"
  return value

/-- Whether a character may stand in a tag's URI; the flow indicators `,`, `[` and `]` only
when `indicators` (in a verbatim tag or a `%TAG` directive). -/
def isUriChar (indicators : Bool) (c : Char) : Bool :=
  isWordChar c || ";/?:@&=+$.!~*()%".contains c || c == Char.ofNat 39 ||
    (indicators && (c == ',' || c == '[' || c == ']'))

/-- Scans the `%`-escaped bytes of one UTF-8 character in a tag's URI. -/
def scanUriEscapes : Lex String := do
  let mut bytes : Array UInt8 := #[]
  let mut width := 0
  for _ in [0:4] do
    need 3
    let l ← get
    let (hi, lo) := (hexValue (l.charAt 1), hexValue (l.charAt 2))
    match l.charAt 0 == '%', hi, lo with
    | true, some h, some d =>
      let octet := h * 16 + d
      if bytes.isEmpty then
        width := if octet < 0x80 then 1 else if octet / 32 == 6 then 2
          else if octet / 16 == 14 then 3 else if octet / 8 == 30 then 4 else 0
        if width == 0 then refuse "found an incorrect leading UTF-8 octet"
      else if octet / 64 != 2 then refuse "found an incorrect trailing UTF-8 octet"
      bytes := bytes.push octet.toUInt8
      skip
      skip
      skip
      if bytes.size ≥ width then break
    | _, _, _ => refuse "did not find URI escaped octet"
  return String.fromUTF8? (ByteArray.mk bytes) |>.getD ""

/-- Scans the URI of a tag, after `head` without its leading `!`; it must not be empty. -/
def scanTagUri (indicators : Bool) (head : String) : Lex String := do
  let mut s := (head.drop 1).toString
  let mut found := !head.isEmpty
  need 1
  for _ in [0:(← get).budget] do
    let c ← peekChar
    if !isUriChar indicators c then break
    if c == '%' then s := s ++ (← scanUriEscapes) else s ← copyChar s
    need 1
    found := true
  if !found then refuse "did not find expected tag URI"
  return s

/-- Scans a tag handle: `!`, then letters and digits, then `!` if one follows. In a directive
a handle other than `!` must end in `!`. -/
def scanTagHandle (directive : Bool) : Lex String := do
  need 1
  if (← peekChar) != '!' then refuse "did not find expected '!'"
  let s ← copyWord (← copyChar "")
  if (← peekChar) == '!' then copyChar s
  else if directive && s != "!" then refuse "did not find expected '!'"
  else return s

/-- Scans a directive from its `%`, up to and past the end of its line. -/
def scanDirective : Lex Token := do
  skip
  let name ← copyWord ""
  if name.isEmpty then refuse "could not find expected directive name"
  if !isBlankZ (← peekChar) then refuse "found unexpected non-alphabetical character"
  let t ← if name == "YAML" then do
      skipBlanks
      let major ← scanVersionNumber
      if (← peekChar) != '.' then refuse "did not find expected digit or '.' character"
      skip
      let minor ← scanVersionNumber
      pure (Token.version major minor)
    else if name == "TAG" then do
      skipBlanks
      let handle ← scanTagHandle true
      need 1
      if !isBlank (← peekChar) then refuse "did not find expected whitespace"
      skipBlanks
      let expansion ← scanTagUri true ""
      need 1
      if !isBlankZ (← peekChar) then refuse "did not find expected whitespace or line break"
      pure (Token.tagDirective handle expansion)
    else refuse "found unknown directive name"
  skipBlanks
  if (← peekChar) == '#' then
    for _ in [0:(← get).budget] do
      if isBreakZ (← peekChar) then break
      skip
      need 1
  if !isBreakZ (← peekChar) then refuse "did not find expected comment or line break"
  if isBreak (← peekChar) then
    need 2
    skipLine
  return t

/-! ## Anchors, aliases and tags -/

/-- Scans an anchor (`&`) or an alias (`*`): a non-empty name followed by a blank or one of
`? : , ] } % @` and the backquote. -/
def scanAnchor (isAnchor : Bool) : Lex Token := do
  skip
  let name ← copyWord ""
  let c ← peekChar
  if name.isEmpty || !(isBlankZ c || "?:,]\x7d%@".contains c || c == Char.ofNat 96) then
    refuse "did not find expected alphabetic or numeric character"
  return if isAnchor then .anchor name else .reference name

/-- Scans a tag: verbatim `!<uri>`, or `!handle!suffix`, or `!suffix` (handle `!`), or `!`
alone (an empty handle with suffix `!`). It must be followed by a blank, or by `,` in flow
context. -/
def scanTag : Lex Token := do
  need 2
  let (handle, suffix) ← if (← peekChar 1) == '<' then do
      skip
      skip
      let suffix ← scanTagUri true ""
      if (← peekChar) != '>' then refuse "did not find the expected '>'"
      skip
      pure ("", suffix)
    else do
      let handle ← scanTagHandle false
      if handle.length > 1 && handle.back == '!' then
        pure (handle, ← scanTagUri false "")
      else
        let suffix ← scanTagUri false handle
        if suffix.isEmpty then pure ("", "!") else pure ("!", suffix)
  need 1
  let l ← get
  if !isBlankZ (l.charAt 0) && (l.flowLevel == 0 || l.charAt 0 != ',') then
    refuse "did not find expected whitespace or line break"
  return .tag handle suffix

/-! ## Fetching tokens -/

/-- Moves past blanks, comments and line breaks up to the next token. Tabs count as blanks in
flow context and where no simple key may start; a byte order mark is passed at the start of a
line. -/
def scanToNextToken : Lex Unit := do
  for _ in [0:(← get).budget] do
    need 1
    let l ← get
    if l.mark.column == 0 && l.charAt 0 == '\uFEFF' then skip
    need 1
    for _ in [0:(← get).budget] do
      let l ← get
      let c := l.charAt 0
      if c == ' ' || ((l.flowLevel > 0 || !l.keyAllowed) && c == '\t') then
        skip
        need 1
      else break
    if (← peekChar) == '#' then scanComments
    if isBreak (← peekChar) then
      need 2
      skipLine
      if (← get).flowLevel == 0 then modify fun l => { l with keyAllowed := true }
    else break

/-- Starts the stream: the indentation, the simple key of flow level zero, and the first token. -/
def fetchStreamStart : Lex Unit := modify fun l =>
  { l with indent := -1, keys := l.keys.push {}, keyAllowed := true, started := true
           tokens := l.tokens.push .streamStart }

/-- Ends the stream: closes every block collection and adds the end token. -/
def fetchStreamEnd : Lex Unit := do
  modify fun l =>
    if l.mark.column != 0 then { l with mark := { l.mark with column := 0, line := l.mark.line + 1 } }
    else l
  unrollIndent (-1)
  removeSimpleKey
  modify fun l => { l with keyAllowed := false }
  pushToken .streamEnd

/-- Fetches a token that closes every block collection and allows no simple key after it. -/
def fetchAtLineStart (scan : Lex Token) : Lex Unit := do
  unrollIndent (-1)
  removeSimpleKey
  modify fun l => { l with keyAllowed := false }
  pushToken (← scan)

/-- Fetches the `:` indicator: it makes the possible simple key a key, or follows a complex
key. -/
def fetchValue : Lex Unit := do
  let l ← get
  let i := l.keys.size - 1
  let k := l.keys.getD i {}
  if ← keyIsValid i then
    insertToken k.number .key
    rollIndent k.mark.column (some k.number) .blockMappingStart
    modify fun l =>
      { l with
        keys := l.keys.modify i ({ · with possible := false })
        keyLevels := l.keyLevels.erase k.number
        keyAllowed := false }
  else
    if l.flowLevel == 0 then
      if !l.keyAllowed then refuse "mapping values are not allowed in this context"
      rollIndent l.mark.column none .blockMappingStart
    modify fun l => { l with keyAllowed := l.flowLevel == 0 }
  skip
  pushToken .value

/-- Fetches a token that does not start on a document marker or directive line. -/
def fetchContent (c : Char) : Lex Unit := do
  let l ← get
  let next := l.charAt 1
  let column : Int := l.mark.column
  let block := l.flowLevel == 0
  let allow (b : Bool) : Lex Unit := modify fun l => { l with keyAllowed := b }
  if c == '[' || c == '{' then
    saveSimpleKey
    increaseFlowLevel
    allow true
    skip
    pushToken (if c == '[' then .flowSequenceStart else .flowMappingStart)
  else if c == ']' || c == '}' then
    removeSimpleKey
    decreaseFlowLevel
    allow false
    skip
    pushToken (if c == ']' then .flowSequenceEnd else .flowMappingEnd)
  else if c == ',' then
    removeSimpleKey
    allow true
    skip
    pushToken .flowEntry
  else if c == '-' && isBlankZ next then
    if block then
      if !l.keyAllowed then refuse "block sequence entries are not allowed in this context"
      rollIndent column none .blockSequenceStart
    removeSimpleKey
    allow true
    skip
    pushToken .blockEntry
  else if c == '?' && (!block || isBlankZ next) then
    if block then
      if !l.keyAllowed then refuse "mapping keys are not allowed in this context"
      rollIndent column none .blockMappingStart
    removeSimpleKey
    allow block
    skip
    pushToken .key
  else if c == ':' && (!block || isBlankZ next) then fetchValue
  else if c == '*' || c == '&' then
    saveSimpleKey
    allow false
    pushToken (← scanAnchor (c == '&'))
  else if c == '!' then
    saveSimpleKey
    allow false
    pushToken (← scanTag)
  else if (c == '|' || c == '>') && block then
    removeSimpleKey
    allow true
    pushToken (← scanBlockScalar (c == '|'))
  else if c == Char.ofNat 39 || c == '"' then
    saveSimpleKey
    allow false
    pushToken (← scanFlowScalar (c == Char.ofNat 39))
  else if !(isBlankZ c || "-?:,[]\x7b\x7d#&*!|>%@\"".contains c || c == Char.ofNat 39 ||
        c == Char.ofNat 96) ||
      (c == '-' && !isBlank next) || (block && (c == '?' || c == ':') && !isBlankZ next) then
    saveSimpleKey
    allow false
    pushToken (← scanPlainScalar)
  else refuse "found character that cannot start any token"

/-- Fetches the next token into the queue. -/
def fetchNextToken : Lex Unit := do
  need 1
  if !(← get).started then
    fetchStreamStart
    return
  scanToNextToken
  unrollIndent (← get).mark.column
  need 4
  let l ← get
  let c := l.charAt 0
  if c == '\x00' then fetchStreamEnd
  else if l.mark.column == 0 && c == '%' then fetchAtLineStart scanDirective
  else if l.atDocumentMarker then
    fetchAtLineStart do
      skip
      skip
      skip
      pure (if c == '-' then .documentStart else .documentEnd)
  else
    fetchContent c
    -- A comment after a token on its line goes with it, except after a sequence entry's dash.
    if (← get).tokens.back? != some .blockEntry then scanLineComment

/-- Fetches tokens until the grammar may look at the front of the queue: three tokens past the
front, and more while the front token may still become a key. -/
def fetchMoreTokens : Lex Unit := do
  for _ in [0:(← get).budget + 8] do
    let l ← get
    if l.head + 2 < l.tokens.size then
      match l.keyLevels[l.head]? with
      | none => break
      | some i => if !(← keyIsValid i) then break
    fetchNextToken
  modify fun l => { l with ready := true }

/-- The token at the front of the queue. -/
def peekToken : Lex Token := do
  if !(← get).ready then fetchMoreTokens
  let l ← get
  return l.tokens.getD l.head .streamEnd

/-- Takes the token at the front of the queue. -/
def skipToken : Lex Unit := modify fun l =>
  { l with
    ready := false
    finished := l.tokens[l.head]? == some .streamEnd
    head := l.head + 1 }

end Yaml

end TelemetryBridge
