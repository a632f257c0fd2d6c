import TelemetryBridge.Yaml.Token.Queue

/-!
# YAML events

The grammar turns the token queue into a stream of events: the start and end of the stream, of
each document and of each collection, scalars and aliases. It follows the YAML grammar with a
stack of *phases*, one per open collection, saying what the next token may be:

* a document opens after its directives and `---`, or implicitly at its first node; only
  `%YAML 1.1` is accepted, once per document, and each `%TAG` handle once; the handles `!` and
  `!!` (`tag:yaml.org,2002:`) are always known, and the handles end with the document;
* a node is an alias, or an optional anchor and tag in either order followed by content; an
  anchor or a tag without content stands for an empty scalar;
* an entry, key or value that is not written is an empty plain scalar;
* in block context a value may be a sequence whose dashes stand at the key's column;
* an entry `k: v` of a flow sequence is a one-entry flow mapping.

Main definitions: `Yaml.Event`, `Yaml.Grammar`, `Yaml.nextEvent`.
-/

namespace TelemetryBridge

namespace Yaml

/-- An event of a YAML stream. Tags are full (`tag:yaml.org,2002:str`), empty when none is
written. -/
inductive Event where
  | streamStart
  | streamEnd
  | documentStart
  | documentEnd
  /-- An alias of the node with an anchor. -/
  | reference (name : String)
  | scalar (anchor : Option String) (tag : String) (text : String) (style : Style)
  | sequenceStart (anchor : Option String) (tag : String) (flow : Bool)
  | sequenceEnd
  | mappingStart (anchor : Option String) (tag : String) (flow : Bool)
  | mappingEnd
  deriving Repr, DecidableEq, Inhabited

/-- What the grammar expects next. -/
inductive Phase where
  | streamStart
  | implicitDocumentStart
  | documentStart
  | documentContent
  | documentEnd
  | blockNode
  | blockNodeOrIndentlessSequence
  | flowNode
  | blockSequenceFirstEntry
  | blockSequenceEntry
  | indentlessSequenceEntry
  | blockMappingFirstKey
  | blockMappingKey
  | blockMappingValue
  | flowSequenceFirstEntry
  | flowSequenceEntry
  | flowSequenceEntryMappingKey
  | flowSequenceEntryMappingValue
  | flowSequenceEntryMappingEnd
  | flowMappingFirstKey
  | flowMappingKey
  | flowMappingValue
  | flowMappingEmptyValue
  | finished
  deriving Repr, DecidableEq, Inhabited

/-- The state of the grammar: the tokenizer, the current phase, the phases of the enclosing
collections, and the tag handles of the current document with what they expand to. -/
structure Grammar where
  lexer : Lexer
  phase : Phase := .streamStart
  phases : List Phase := []
  handles : List (String × String) := []
  deriving Inhabited

/-- Parsing: a step on the grammar's state that may refuse the text. -/
abbrev Parse := StateT Grammar (Except Fault)

/-- Runs a tokenizer step inside the grammar. -/
def lex {α : Type} (m : Lex α) : Parse α := fun g => do
  let (a, l) ← m g.lexer
  pure (a, { g with lexer := l })

/-- The token at the front of the queue. -/
def front : Parse Token := lex peekToken

/-- Takes the token at the front of the queue. -/
def advance : Parse Unit := lex skipToken

/-- Refuses the text while parsing. -/
def reject {α : Type} (problem : String) : Parse α := throw (.grammar problem)

/-- Sets the phase. -/
def enter (p : Phase) : Parse Unit := modify fun g => { g with phase := p }

/-- Remembers a phase to come back to after the current node. -/
def pushPhase (p : Phase) : Parse Unit := modify fun g => { g with phases := p :: g.phases }

/-- Comes back to the phase of the enclosing collection. -/
def popPhase : Parse Unit := modify fun g =>
  match g.phases with
  | p :: rest => { g with phase := p, phases := rest }
  | [] => { g with phase := .finished }

/-- The event of an entry, key or value that is not written. -/
def emptyScalar : Event := .scalar none "" "" .plain

/-- A bound on the steps of a loop over the tokens of the rest of the text. -/
def Grammar.budget (g : Grammar) : Nat := 4 * g.lexer.budget

/-- Parses a node: an alias, or content after an optional anchor and tag. In block context a
block collection may start here, and with `indentless` a sequence whose dashes stand at the
column of the enclosing key. -/
def parseNode (block indentless : Bool) : Parse Event := do
  let t ← front
  if let .reference name := t then
    popPhase
    advance
    return .reference name
  let mut anchor : Option String := none
  let mut written : Option (String × String) := none
  let mut t := t
  match t with
  | .anchor a =>
    anchor := some a
    advance
    t ← front
    if let .tag h s := t then
      written := some (h, s)
      advance
      t ← front
  | .tag h s =>
    written := some (h, s)
    advance
    t ← front
    if let .anchor a := t then
      anchor := some a
      advance
      t ← front
  | _ => pure ()
  let tag ← match written with
    | none => pure ""
    | some (h, s) =>
      if h.isEmpty then pure s
      else match (← get).handles.lookup h with
        | some e => pure (e ++ s)
        | none => reject "found undefined tag handle"
  if indentless && t == .blockEntry then
    enter .indentlessSequenceEntry
    return .sequenceStart anchor tag false
  match t with
  | .scalar text style =>
    popPhase
    advance
    return .scalar anchor tag text style
  | .flowSequenceStart =>
    enter .flowSequenceFirstEntry
    return .sequenceStart anchor tag true
  | .flowMappingStart =>
    enter .flowMappingFirstKey
    return .mappingStart anchor tag true
  | .blockSequenceStart =>
    if block then
      enter .blockSequenceFirstEntry
      return .sequenceStart anchor tag false
  | .blockMappingStart =>
    if block then
      enter .blockMappingFirstKey
      return .mappingStart anchor tag false
  | _ => pure ()
  if anchor.isSome || !tag.isEmpty then
    popPhase
    return .scalar anchor tag "" .plain
  reject "did not find expected node content"

/-- Adds a tag handle to the document; a handle known already is refused unless `quiet`. -/
def addHandle (handle expansion : String) (quiet : Bool) : Parse Unit := do
  let g ← get
  if (g.handles.lookup handle).isSome then
    if !quiet then reject "found duplicate %TAG directive"
  else set { g with handles := g.handles ++ [(handle, expansion)] }

/-- Reads the directives before a document, then adds the default tag handles. -/
def processDirectives : Parse Unit := do
  let mut versioned := false
  for _ in [0:(← get).budget] do
    match ← front with
    | .version major minor =>
      if versioned then reject "found duplicate %YAML directive"
      if major != 1 || minor != 1 then reject "found incompatible YAML document"
      versioned := true
    | .tagDirective h e => addHandle h e false
    | _ => break
    advance
  addHandle "!" "!" true
  addHandle "!!" "tag:yaml.org,2002:" true

/-- Whether a token ends the content of a document. -/
def Token.endsDocument : Token → Bool
  | .version .. | .tagDirective .. | .documentStart | .documentEnd | .streamEnd => true
  | _ => false

/-- Starts a document, explicit or (at the start of the stream) implicit, or ends the stream. -/
def parseDocumentStart (implicit : Bool) : Parse Event := do
  let mut t ← front
  if !implicit then
    for _ in [0:(← get).budget] do
      if t != .documentEnd then break
      advance
      t ← front
  if implicit && !t.endsDocument then
    processDirectives
    pushPhase .documentEnd
    enter .blockNode
    return .documentStart
  else if t != .streamEnd then
    processDirectives
    if (← front) != .documentStart then reject "did not find expected <document start>"
    pushPhase .documentEnd
    enter .documentContent
    advance
    return .documentStart
  else
    enter .finished
    advance
    return .streamEnd

/-- Parses the content of an explicit document, empty when the document ends at once. -/
def parseDocumentContent : Parse Event := do
  if (← front).endsDocument then
    popPhase
    return emptyScalar
  parseNode true false

/-- Ends a document, with or without `...`; its tag handles end with it. -/
def parseDocumentEnd : Parse Event := do
  if (← front) == .documentEnd then advance
  modify fun g => { g with handles := [] }
  enter .documentStart
  return .documentEnd

/-- Parses an entry of a block sequence, or its end. -/
def parseBlockSequenceEntry (first : Bool) : Parse Event := do
  if first then
    let _ ← front
    advance
  let t ← front
  if t == .blockEntry then
    advance
    let t ← front
    if t != .blockEntry && t != .blockEnd then
      pushPhase .blockSequenceEntry
      parseNode true false
    else
      enter .blockSequenceEntry
      return emptyScalar
  else if t == .blockEnd then
    popPhase
    advance
    return .sequenceEnd
  else reject "did not find expected '-' indicator"

/-- Parses an entry of a sequence whose dashes stand at its key's column, or its end. -/
def parseIndentlessSequenceEntry : Parse Event := do
  let t ← front
  if t == .blockEntry then
    advance
    let t ← front
    if t != .blockEntry && t != .key && t != .value && t != .blockEnd then
      pushPhase .indentlessSequenceEntry
      parseNode true false
    else
      enter .indentlessSequenceEntry
      return emptyScalar
  else
    popPhase
    return .sequenceEnd

/-- Parses a key of a block mapping, or its end. -/
def parseBlockMappingKey (first : Bool) : Parse Event := do
  if first then
    let _ ← front
    advance
  let t ← front
  if t == .key then
    advance
    let t ← front
    if t != .key && t != .value && t != .blockEnd then
      pushPhase .blockMappingValue
      parseNode true true
    else
      enter .blockMappingValue
      return emptyScalar
  else if t == .blockEnd then
    popPhase
    advance
    return .mappingEnd
  else reject "did not find expected key"

/-- Parses a value of a block mapping. -/
def parseBlockMappingValue : Parse Event := do
  if (← front) == .value then
    advance
    let t ← front
    if t != .key && t != .value && t != .blockEnd then
      pushPhase .blockMappingKey
      return ← parseNode true true
  enter .blockMappingKey
  return emptyScalar

/-- Parses an entry of a flow sequence, or its end. -/
def parseFlowSequenceEntry (first : Bool) : Parse Event := do
  if first then
    let _ ← front
    advance
  let mut t ← front
  if t != .flowSequenceEnd then
    if !first then
      if t == .flowEntry then
        advance
        t ← front
      else reject "did not find expected ',' or ']'"
    if t == .key then
      enter .flowSequenceEntryMappingKey
      advance
      return .mappingStart none "" true
    else if t != .flowSequenceEnd then
      pushPhase .flowSequenceEntry
      return ← parseNode false false
  popPhase
  advance
  return .sequenceEnd

/-- Parses the key of a one-entry mapping in a flow sequence. -/
def parseFlowSequenceEntryMappingKey : Parse Event := do
  let t ← front
  if t != .value && t != .flowEntry && t != .flowSequenceEnd then
    pushPhase .flowSequenceEntryMappingValue
    parseNode false false
  else
    advance
    enter .flowSequenceEntryMappingValue
    return emptyScalar

/-- Parses the value of a one-entry mapping in a flow sequence. -/
def parseFlowSequenceEntryMappingValue : Parse Event := do
  if (← front) == .value then
    advance
    let t ← front
    if t != .flowEntry && t != .flowSequenceEnd then
      pushPhase .flowSequenceEntryMappingEnd
      return ← parseNode false false
  enter .flowSequenceEntryMappingEnd
  return emptyScalar

/-- Ends a one-entry mapping in a flow sequence. -/
def parseFlowSequenceEntryMappingEnd : Parse Event := do
  let _ ← front
  enter .flowSequenceEntry
  return .mappingEnd

/-- Parses a key of a flow mapping, or its end. -/
def parseFlowMappingKey (first : Bool) : Parse Event := do
  if first then
    let _ ← front
    advance
  let mut t ← front
  if t != .flowMappingEnd then
    if !first then
      if t == .flowEntry then
        advance
        t ← front
      else reject "did not find expected ',' or '\x7d'"
    if t == .key then
      advance
      let k ← front
      if k != .value && k != .flowEntry && k != .flowMappingEnd then
        pushPhase .flowMappingValue
        return ← parseNode false false
      else
        enter .flowMappingValue
        return emptyScalar
    else if t != .flowMappingEnd then
      pushPhase .flowMappingEmptyValue
      return ← parseNode false false
  popPhase
  advance
  return .mappingEnd

/-- Parses a value of a flow mapping; with `empty` the key stood alone. -/
def parseFlowMappingValue (empty : Bool) : Parse Event := do
  let t ← front
  if empty then
    enter .flowMappingKey
    return emptyScalar
  if t == .value then
    advance
    let t ← front
    if t != .flowEntry && t != .flowMappingEnd then
      pushPhase .flowMappingKey
      return ← parseNode false false
  enter .flowMappingKey
  return emptyScalar

/-- Starts the stream. -/
def parseStreamStart : Parse Event := do
  if (← front) != .streamStart then reject "did not find expected <stream-start>"
  enter .implicitDocumentStart
  advance
  return .streamStart

/-- The next event of the stream. -/
def nextEvent : Parse Event := do
  let g ← get
  if g.lexer.finished then reject "no events after the end of the stream"
  match g.phase with
  | .streamStart => parseStreamStart
  | .implicitDocumentStart => parseDocumentStart true
  | .documentStart => parseDocumentStart false
  | .documentContent => parseDocumentContent
  | .documentEnd => parseDocumentEnd
  | .blockNode => parseNode true false
  | .blockNodeOrIndentlessSequence => parseNode true true
  | .flowNode => parseNode false false
  | .blockSequenceFirstEntry => parseBlockSequenceEntry true
  | .blockSequenceEntry => parseBlockSequenceEntry false
  | .indentlessSequenceEntry => parseIndentlessSequenceEntry
  | .blockMappingFirstKey => parseBlockMappingKey true
  | .blockMappingKey => parseBlockMappingKey false
  | .blockMappingValue => parseBlockMappingValue
  | .flowSequenceFirstEntry => parseFlowSequenceEntry true
  | .flowSequenceEntry => parseFlowSequenceEntry false
  | .flowSequenceEntryMappingKey => parseFlowSequenceEntryMappingKey
  | .flowSequenceEntryMappingValue => parseFlowSequenceEntryMappingValue
  | .flowSequenceEntryMappingEnd => parseFlowSequenceEntryMappingEnd
  | .flowMappingFirstKey => parseFlowMappingKey true
  | .flowMappingKey => parseFlowMappingKey false
  | .flowMappingValue => parseFlowMappingValue false
  | .flowMappingEmptyValue => parseFlowMappingValue true
  | .finished => reject "no events after the end of the stream"

end Yaml

end TelemetryBridge
