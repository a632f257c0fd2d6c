import TelemetryBridge.Config.Basic
import TelemetryBridge.Yaml.Node
import TelemetryBridge.Decimal.Places
import Std.Data.HashSet

/-!
# Reading a configuration from a YAML document

The document is a mapping of sections, each a mapping of fields, keyed by their snake-case
names (`serial.baud_rate`). Keys match exactly; unknown keys are ignored and their values are
not read. A null value leaves its field as it was. Some mistakes are *type errors*: decoding
goes on past them, and the whole document is then refused; others make the document
*unreadable* at once.

Type errors:

* a mapping with two keys of the same kind and text (`a` and `'a'` count as the same);
* a field set twice in one mapping;
* a key that is a collection;
* a value of the wrong type. A section or the document may be null; any other scalar, and any
  sequence, in their place is a type error.

By field type:

* a text field takes any scalar's text as written (`123` gives `"123"`), or binary data decoded;
* an integer field takes an integer within the signed 64-bit range, or a double up to `2^63`
  cut toward zero;
* a duration field takes text in duration notation (`500ms`, `'2s'`), and nothing else;
* a boolean field takes a boolean, or the text `y`, `yes`, `on` (true) or `n`, `no`, `off`
  (false) in lower, capitalized or upper case.

A key `<<` merges mappings into the mapping around it, after its own keys: a mapping, an alias
of one, or a sequence of those, read in order. A key is read once only: keys written in the
mapping win over merged ones, and of the merged mappings the first that has a key gives it.
Merges nest: a merged mapping may itself merge, and its keys take part in the same reckoning.
Anything else after `<<` makes the document unreadable, as does a scalar whose tag it does not
fit and an alias of a node that contains that alias.

Main definition: `Config.ofYaml`.
-/

namespace TelemetryBridge

open Yaml

/-- The state of decoding: whether a type error was met, the keys already read by the merges
under way (none outside a merge), the aliases being followed, and the count of nodes decoded,
in all and through aliases. -/
structure Decoding where
  mismatched : Bool := false
  merged : Option (List String) := none
  following : List Nat := []
  decoded : Nat := 0
  aliased : Nat := 0
  deriving Inhabited

/-- Decoding a document; an error makes it unreadable. -/
abbrev Decode := StateT Decoding (Except String)

namespace Decode

/-- Notes a type error. -/
def mismatch : Decode Unit := modify fun d => { d with mismatched := true }

/-- The share of decoded nodes that may come through aliases, given the count of nodes decoded:
99% up to 400000 nodes, falling evenly to 10% at 4000000 nodes. -/
def aliasAllowance (decoded : Nat) : Float :=
  if decoded ≤ 400000 then 0.99
  else if decoded ≥ 4000000 then 0.10
  else 0.99 - 0.89 * (Float.ofNat (decoded - 400000) / 3600000.0)

/-- Counts one node decoded. A document where more than 100 of over 1000 decoded nodes came
through aliases, and more than their allowed share, is unreadable: this bounds the work that
aliases of aliases can multiply. -/
def tick : Decode Unit := do
  let d ← get
  let decoded := d.decoded + 1
  let aliased := if d.following.isEmpty then d.aliased else d.aliased + 1
  set { d with decoded, aliased }
  if aliased > 100 && decoded > 1000 &&
      Float.ofNat aliased / Float.ofNat decoded > aliasAllowance decoded then
    throw "document contains excessive aliasing"

/-- The meaning of a scalar node. -/
def scalarMeaning (tag : String) (style : Style) (text : String) : Decode Scalar :=
  match meaning tag style text with
  | .ok s => pure s
  | .error e => throw e

/-- Decodes node `i` with `read`, following an alias to the node it refers to; an alias met
again while it is being followed makes the document unreadable. -/
def follow {α : Type} (doc : Yaml.Document) (read : Nat → Node → Decode α) : Nat → Nat → Decode α
  | 0, _ => throw "document nested too deeply"
  | fuel + 1, i => do
    tick
    match doc.node i with
    | .reference name target => do
      if (← get).following.contains i then
        throw ("anchor '" ++ name ++ "' value contains itself")
      modify fun d => { d with following := i :: d.following }
      let r ← follow doc read fuel target
      modify fun d => { d with following := d.following.erase i }
      pure r
    | n => read fuel n

/-- Whether a double fits an integer field: at most `2^63`, and not a NaN. -/
def fitsInt (x : Float) : Bool :=
  match Binary.ofFloat x with
  | .finite neg mag => neg || mag ≤ 2 ^ 63 * 2 ^ 1074
  | .inf neg => neg
  | .nan => false

/-- A text field. -/
def text (n : Node) (cur : String) : Decode String := do
  match n with
  | .scalar tag style v =>
    match ← scalarMeaning tag style v with
    | .null => pure cur
    | .bytes s => pure s
    | _ => pure v
  | _ => do mismatch; pure cur

/-- An integer field. -/
def int (n : Node) (cur : Int) : Decode Int := do
  match n with
  | .scalar tag style v =>
    match ← scalarMeaning tag style v with
    | .null => pure cur
    | .int k => if -(2 ^ 63 : Int) ≤ k ∧ k < 2 ^ 63 then pure k else do mismatch; pure cur
    | .float x => if fitsInt x then pure (wholeInt64 x) else do mismatch; pure cur
    | _ => do mismatch; pure cur
  | _ => do mismatch; pure cur

/-- A duration field. -/
def duration (n : Node) (cur : Duration) : Decode Duration := do
  match n with
  | .scalar tag style v =>
    match ← scalarMeaning tag style v with
    | .null => pure cur
    | .text s | .bytes s =>
      match Duration.parse? s with
      | some d => pure d
      | none => do mismatch; pure cur
    | _ => do mismatch; pure cur
  | _ => do mismatch; pure cur

/-- The texts a boolean field also takes. -/
def flagWord (s : String) : Option Bool :=
  if ["y", "Y", "yes", "Yes", "YES", "on", "On", "ON"].contains s then some true
  else if ["n", "N", "no", "No", "NO", "off", "Off", "OFF"].contains s then some false
  else none

/-- A boolean field. -/
def flag (n : Node) (cur : Bool) : Decode Bool := do
  match n with
  | .scalar tag style v =>
    match ← scalarMeaning tag style v with
    | .null => pure cur
    | .bool b => pure b
    | .text s | .bytes s =>
      match flagWord s with
      | some b => pure b
      | none => do mismatch; pure cur
    | _ => do mismatch; pure cur
  | _ => do mismatch; pure cur

/-- The name a key gives a field: the text of a scalar that is not null (binary data decoded);
a null key names nothing, and a collection key is a type error. -/
def keyName (_ : Nat) (n : Node) : Decode (Option String) := do
  match n with
  | .scalar tag style v =>
    match ← scalarMeaning tag style v with
    | .null => pure none
    | .bytes s => pure (some s)
    | _ => pure (some v)
  | _ => do mismatch; pure none

/-- The text a key reads as when it may be of any type: a string, or none for a null, a
boolean, a number or a collection. -/
def keyText (_ : Nat) (n : Node) : Decode (Option String) := do
  match n with
  | .scalar tag style v =>
    match ← scalarMeaning tag style v with
    | .text s | .bytes s => pure (some s)
    | .stamp => pure (some v)
    | _ => pure none
  | _ => pure none

/-- Whether a key is the merge key `<<`. -/
def isMergeKey : Node → Bool
  | .scalar t _ v => v == "<<" && (t == "" || t == "!" || t == "!!merge")
  | _ => false

/-- The kind and text by which two keys of a mapping count as the same. -/
def keyForm : Node → Nat × String
  | .scalar _ _ v => (0, v)
  | .sequence .. => (1, "")
  | .mapping .. => (2, "")
  | .reference name _ => (3, name)

/-- Whether two keys of a mapping count as the same. -/
def hasDuplicates (doc : Yaml.Document) (es : List (Nat × Nat)) : Bool :=
  let rec go (seen : Std.HashSet (Nat × String)) : List (Nat × String) → Bool
    | [] => false
    | k :: rest => seen.contains k || go (seen.insert k) rest
  go {} (es.map fun e => keyForm (doc.node e.1))

/-- The fields of a section: each name with how it reads a node, within a step budget, into
the section. -/
abbrev Fields (σ : Type) := List (String × (Nat → Nat → σ → Decode σ))

/-- A field read by a function of the node it is given, through aliases. -/
def leaf {σ : Type} (doc : Yaml.Document) (read : Node → σ → Decode σ) : Nat → Nat → σ → Decode σ :=
  fun fuel i s => follow doc (fun _ n => read n s) fuel i

/-- Reads the entries of a mapping into a section, or (for a merge) claims those keys that no
earlier mapping claimed. -/
def entries {σ : Type} (doc : Yaml.Document) (fields : Fields σ) (fuel : Nat)
    (es : List (Nat × Nat)) (claimed : Option (List String)) (s : σ) :
    Decode (σ × Option (List String) × Option Nat) := do
  let mut claimed := claimed
  let mut done : List String := []
  let mut mergeNode : Option Nat := none
  let mut s := s
  for (k, v) in es do
    if isMergeKey (doc.node k) then
      mergeNode := some v
      continue
    let some name ← follow doc keyName fuel k | continue
    if let some c := claimed then
      if c.contains name then continue
      claimed := some (name :: c)
    if let some read := fields.lookup name then
      if done.contains name then
        mismatch
        continue
      done := name :: done
      s ← read fuel v s
  return (s, claimed, mergeNode)

mutual

/-- Reads node `i` into a section: a mapping's entries, nothing for a null, and a type error
for anything else. -/
def readSection {σ : Type} (doc : Yaml.Document) (fields : Fields σ) : Nat → Nat → σ → Decode σ
  | 0, _, _ => throw "document nested too deeply"
  | fuel + 1, i, s => do
    tick
    match doc.node i with
    | .reference name target => do
      if (← get).following.contains i then
        throw ("anchor '" ++ name ++ "' value contains itself")
      modify fun d => { d with following := i :: d.following }
      let s ← readSection doc fields fuel target s
      modify fun d => { d with following := d.following.erase i }
      pure s
    | .scalar tag style v => do
      match ← scalarMeaning tag style v with
      | .null => pure s
      | _ => do mismatch; pure s
    | .sequence .. => do mismatch; pure s
    | .mapping _ es =>
      if hasDuplicates doc es then do mismatch; pure s
      else mappingEntries doc fields fuel es s

/-- Reads the entries of a mapping into a section, then the mappings its merge key names. -/
def mappingEntries {σ : Type} (doc : Yaml.Document) (fields : Fields σ) :
    Nat → List (Nat × Nat) → σ → Decode σ
  | 0, _, _ => throw "document nested too deeply"
  | fuel + 1, es, s => do
    let claimed := (← get).merged
    modify fun d => { d with merged := none }
    let (s, claimed, mergeNode) ← entries doc fields fuel es claimed s
    modify fun d => { d with merged := claimed }
    match mergeNode with
    | some m => merge doc fields fuel es m s
    | none => pure s

/-- Merges the mappings node `m` names into a section whose own entries are `es`. The first
merge of a nesting starts the claimed keys from the keys of `es`. -/
def merge {σ : Type} (doc : Yaml.Document) (fields : Fields σ) :
    Nat → List (Nat × Nat) → Nat → σ → Decode σ
  | 0, _, _, _ => throw "document nested too deeply"
  | fuel + 1, es, m, s => do
    let outermost := (← get).merged.isNone
    if outermost then
      let mut keys : List String := []
      for (k, _) in es do
        if let some t ← follow doc keyText fuel k then keys := t :: keys
      modify fun d => { d with merged := some keys }
    let wantMap := "map merge requires map or sequence of maps as the value"
    let isMapping (i : Nat) : Bool :=
      match doc.node i with
      | .mapping .. => true
      | .reference _ t => match doc.node t with
        | .mapping .. => true
        | _ => false
      | _ => false
    let s ← match doc.node m with
      | .mapping .. | .reference .. =>
        if isMapping m then readSection doc fields fuel m s else throw wantMap
      | .sequence _ items =>
        items.foldlM (fun s item =>
          if isMapping item then readSection doc fields fuel item s else throw wantMap) s
      | .scalar .. => throw wantMap
    if outermost then modify fun d => { d with merged := none }
    pure s

end

end Decode

namespace Config

open Decode

/-- The fields of the serial section. -/
def serialFields (doc : Yaml.Document) : Fields SerialConfig :=
  [("port", leaf doc fun n s => return { s with port := ← text n s.port }),
   ("baud_rate", leaf doc fun n s => return { s with baudRate := ← int n s.baudRate }),
   ("read_timeout", leaf doc fun n s => return { s with readTimeout := ← duration n s.readTimeout })]

/-- The fields of the sources section. -/
def sourcesFields (doc : Yaml.Document) : Fields SourcesConfig :=
  [("redis_addr", leaf doc fun n s => return { s with redisAddr := ← text n s.redisAddr }),
   ("redis_db", leaf doc fun n s => return { s with redisDb := ← int n s.redisDb }),
   ("cont_key", leaf doc fun n s => return { s with contKey := ← text n s.contKey }),
   ("alarms_key", leaf doc fun n s => return { s with alarmsKey := ← text n s.alarmsKey }),
   ("payload_key", leaf doc fun n s => return { s with payloadKey := ← text n s.payloadKey }),
   ("snapshot_path", leaf doc fun n s => return { s with snapshotPath := ← text n s.snapshotPath }),
   ("backup_path", leaf doc fun n s => return { s with backupPath := ← text n s.backupPath }),
   ("backup_table", leaf doc fun n s => return { s with backupTable := ← text n s.backupTable }),
   ("probe_timeout", leaf doc fun n s => return { s with probeTimeout := ← duration n s.probeTimeout })]

/-- The fields of the bridge section. -/
def bridgeFields (doc : Yaml.Document) : Fields BridgeConfig :=
  [("poll_interval", leaf doc fun n s => return { s with pollInterval := ← duration n s.pollInterval }),
   ("transmit_interval", leaf doc fun n s =>
      return { s with transmitInterval := ← duration n s.transmitInterval }),
   ("event_monitoring", leaf doc fun n s =>
      return { s with eventMonitoring := ← flag n s.eventMonitoring }),
   ("profile_path", leaf doc fun n s => return { s with profilePath := ← text n s.profilePath }),
   ("mirror_payload", leaf doc fun n s => return { s with sharePayload := ← flag n s.sharePayload })]

/-- The fields of the identity section. -/
def identityFields (doc : Yaml.Document) : Fields IdentityConfig :=
  [("device_file", leaf doc fun n s => return { s with deviceFile := ← text n s.deviceFile })]

/-- The fields of the logging section. -/
def loggingFields (doc : Yaml.Document) : Fields LoggingConfig :=
  [("level", leaf doc fun n s => return { s with level := ← text n s.level }),
   ("file", leaf doc fun n s => return { s with file := ← text n s.file })]

/-- The fields of the metrics section. -/
def metricsFields (doc : Yaml.Document) : Fields MetricsConfig :=
  [("enabled", leaf doc fun n s => return { s with enabled := ← flag n s.enabled }),
   ("addr", leaf doc fun n s => return { s with addr := ← text n s.addr })]

/-- The fields of the MQTT section. -/
def mqttFields (doc : Yaml.Document) : Fields MqttConfig :=
  [("enabled", leaf doc fun n s => return { s with enabled := ← flag n s.enabled }),
   ("broker", leaf doc fun n s => return { s with broker := ← text n s.broker }),
   ("client_id", leaf doc fun n s => return { s with clientId := ← text n s.clientId }),
   ("topic", leaf doc fun n s => return { s with topic := ← text n s.topic }),
   ("qos", leaf doc fun n s => return { s with qos := ← int n s.qos }),
   ("ca_certificate", leaf doc fun n s =>
      return { s with caCertificate := ← text n s.caCertificate })]

/-- The sections of a configuration document. -/
def sections (doc : Yaml.Document) : Fields Config :=
  [("serial", fun fuel i c =>
      return { c with serial := ← readSection doc (serialFields doc) fuel i c.serial }),
   ("sources", fun fuel i c =>
      return { c with sources := ← readSection doc (sourcesFields doc) fuel i c.sources }),
   ("bridge", fun fuel i c =>
      return { c with bridge := ← readSection doc (bridgeFields doc) fuel i c.bridge }),
   ("identity", fun fuel i c =>
      return { c with identity := ← readSection doc (identityFields doc) fuel i c.identity }),
   ("logging", fun fuel i c =>
      return { c with logging := ← readSection doc (loggingFields doc) fuel i c.logging }),
   ("metrics", fun fuel i c =>
      return { c with metrics := ← readSection doc (metricsFields doc) fuel i c.metrics }),
   ("mqtt", fun fuel i c =>
      return { c with mqtt := ← readSection doc (mqttFields doc) fuel i c.mqtt })]

/-- How reading a configuration document can go wrong. -/
inductive DocumentFault where
  /-- The document is not YAML, or cannot be read as a configuration at all. -/
  | unreadable
  /-- A value has the wrong type for its field. -/
  | mismatch
  deriving Repr, DecidableEq, Inhabited

/-- Reads a configuration document over a configuration. -/
def ofYaml (doc : Yaml.Document) (c : Config) : Except DocumentFault Config :=
  let n := doc.nodes.size
  match (do tick; readSection doc (sections doc) (4 * (n * n + n + 4)) doc.root c).run {} with
  | .error _ => .error .unreadable
  | .ok (c, d) => if d.mismatched then .error .mismatch else .ok c

end Config

end TelemetryBridge
