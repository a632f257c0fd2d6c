import TelemetryBridge.Yaml.Event
import TelemetryBridge.Yaml.Resolve

/-!
# YAML documents as node graphs

A document is a table of nodes with a root: scalars, sequences and mappings, whose children are
given by their index in the table, and aliases, which refer to the node their anchor names.
Because an anchor names its collection before the collection's children are read, an alias
inside a collection may refer to the collection itself.

Each node keeps its tag in short form (`!!str` for `tag:yaml.org,2002:str`). A node without a
tag, or with the non-specific `!`, is given one: collections get `!!seq` and `!!map`, quoted
and block scalars `!!str`, the plain scalar `<<` the merge tag `!!merge`, and other plain
scalars the tag of what their text reads as. An anchor may be defined again; an alias refers to
the latest definition before it, and one without any refuses the text.

Only the first document of a text is read. A text without any document has none.

Main definitions: `Yaml.Node`, `Yaml.Document`, `Yaml.firstDocument`.
-/

namespace TelemetryBridge

namespace Yaml

/-- A node of a YAML document; children are indices into the document's node table. -/
inductive Node where
  | scalar (tag : String) (style : Style) (text : String)
  | sequence (tag : String) (items : List Nat)
  | mapping (tag : String) (entries : List (Nat × Nat))
  /-- An alias, with its anchor's name and the node it refers to. -/
  | reference (name : String) (target : Nat)
  deriving Repr, Inhabited

/-- A YAML document: its node table and its root. -/
structure Document where
  nodes : Array Node
  root : Nat
  deriving Inhabited

/-- The node at an index of a document's table. -/
def Document.node (d : Document) (i : Nat) : Node := d.nodes.getD i default

/-- The short form of a tag: `!!name` for `tag:yaml.org,2002:name`. -/
def shortTag (t : String) : String :=
  if t.startsWith "tag:yaml.org,2002:" then "!!" ++ (t.drop 18).toString else t

/-- The tag of a node: the written one, or else the one its kind gives. -/
def nodeTag (written given : String) : String :=
  if written != "" && written != "!" then shortTag written else given

/-- The state of reading a document: the grammar, the event looked at but not taken, the node
table so far and the anchors defined so far, the latest first. -/
structure Composer where
  grammar : Grammar
  pending : Option Event := none
  nodes : Array Node := #[]
  anchors : List (String × Nat) := []
  deriving Inhabited

/-- Reading a document: a step on the composer's state that may refuse the text. -/
abbrev Compose := StateT Composer (Except Fault)

/-- The next event, without taking it. -/
def peekEvent : Compose Event := do
  match (← get).pending with
  | some e => pure e
  | none =>
    let c ← get
    match nextEvent.run c.grammar with
    | .ok (e, g) =>
      set { c with grammar := g, pending := some e }
      pure e
    | .error f => throw f

/-- Takes the event looked at. -/
def takeEvent : Compose Unit := modify fun c => { c with pending := none }

/-- Adds a node to the table; its index. -/
def addNode (n : Node) : Compose Nat :=
  modifyGet fun c => (c.nodes.size, { c with nodes := c.nodes.push n })

/-- Puts a node at an index of the table. -/
def putNode (i : Nat) (n : Node) : Compose Unit :=
  modify fun c => { c with nodes := c.nodes.modify i fun _ => n }

/-- Defines an anchor for the node at an index. -/
def defineAnchor (anchor : Option String) (i : Nat) : Compose Unit :=
  match anchor with
  | some a => modify fun c => { c with anchors := (a, i) :: c.anchors }
  | none => pure ()

/-- Reads a node and its children from the events; its index in the table. -/
def composeNode : Nat → Compose Nat
  | 0 => throw (.grammar "document nested too deeply")
  | fuel + 1 => do
    match ← peekEvent with
    | .reference name =>
      match (← get).anchors.lookup name with
      | none => throw (.unknownAnchor name)
      | some target =>
        let i ← addNode (.reference name target)
        takeEvent
        pure i
    | .scalar anchor tag text style =>
      let given :=
        if style != .plain then "!!str" else if text == "<<" then "!!merge" else implicitTag text
      let i ← addNode (.scalar (nodeTag tag given) style text)
      defineAnchor anchor i
      takeEvent
      pure i
    | .sequenceStart anchor tag _ =>
      let i ← addNode (.sequence (nodeTag tag "!!seq") [])
      defineAnchor anchor i
      takeEvent
      let mut items : Array Nat := #[]
      for _ in [0:fuel] do
        if (← peekEvent) == .sequenceEnd then break
        items := items.push (← composeNode fuel)
      takeEvent
      putNode i (.sequence (nodeTag tag "!!seq") items.toList)
      pure i
    | .mappingStart anchor tag _ =>
      let i ← addNode (.mapping (nodeTag tag "!!map") [])
      defineAnchor anchor i
      takeEvent
      let mut entries : Array (Nat × Nat) := #[]
      for _ in [0:fuel] do
        if (← peekEvent) == .mappingEnd then break
        let k ← composeNode fuel
        let v ← composeNode fuel
        entries := entries.push (k, v)
      takeEvent
      putNode i (.mapping (nodeTag tag "!!map") entries.toList)
      pure i
    | _ => throw (.grammar "did not find expected node")

/-- Reads the first document of a stream, if there is one. -/
def composeFirst (fuel : Nat) : Compose (Option Document) := do
  if (← peekEvent) != .streamStart then throw (.grammar "did not find expected <stream-start>")
  takeEvent
  match ← peekEvent with
  | .documentStart =>
    takeEvent
    let root ← composeNode fuel
    if (← peekEvent) != .documentEnd then throw (.grammar "did not find expected <document end>")
    takeEvent
    return some { nodes := (← get).nodes, root }
  | _ => return none

/-- Reads the first document of a YAML text given as bytes; `none` when it has none. -/
def firstDocument (text : Bytes) : Except Fault (Option Document) :=
  let source := Source.ofBytes text
  (composeFirst (16 * (source.chars.size + 8))).run' { grammar := { lexer := { source } } }

end Yaml

end TelemetryBridge
