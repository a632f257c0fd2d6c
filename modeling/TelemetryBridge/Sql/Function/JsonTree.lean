import TelemetryBridge.Sql.Function.Call

/-!
# Walking JSON documents as tables

`json_each(X)` gives a row for each element or member of the document `X`, and `json_tree(X)`
a row for every part of it, the whole first, in document order. With a second argument, a path,
both start from the part of `X` the path names instead.

A row has the columns `key` (the member's name or the element's index), `value`, `type`,
`atom` (the value of a part that is not an array or object), `id`, `parent`, `fullkey` (the
path of the part) and `path` (the path of its container).

The `id` of a part is where it starts in the binary form of the document, in which every part
is a header and a body: `null`, `true` and `false` are a header alone, a number or string has
its text as body, and an array or object the parts it holds, an object's members each as a
name followed by a value. A header takes one byte for a body of up to 11 bytes, two up to 255,
three up to 65535, and five beyond. A member's `id` is where its name starts.

Main definitions: `Sql.Json.Node.binarySize`, `Sql.Json.walk`.
-/

namespace TelemetryBridge

namespace Sql

namespace Json

/-- The bytes of the header of a part whose body takes `n` bytes. -/
def headerSize (n : Nat) : Nat :=
  if n ≤ 11 then 1 else if n ≤ 0xff then 2 else if n ≤ 0xffff then 3 else 5

/-- The bytes of a part whose body is a text. -/
def textSize (t : String) : Nat := headerSize t.utf8ByteSize + t.utf8ByteSize

mutual

/-- The bytes a part takes in the binary form. -/
def Node.binarySize : Node → Nat
  | .null | .bool _ => 1
  | .number t _ => textSize t
  | .string raw => textSize raw
  | .array items => headerSize (itemsSize items) + itemsSize items
  | .object ms => headerSize (membersSize ms) + membersSize ms

/-- The bytes the elements of an array take. -/
def itemsSize : List Node → Nat
  | [] => 0
  | v :: rest => v.binarySize + itemsSize rest

/-- The bytes the members of an object take, names included. -/
def membersSize : List (String × Node) → Nat
  | [] => 0
  | (k, v) :: rest => textSize k + v.binarySize + membersSize rest

end

/-- The bytes of the header of a part. -/
def Node.headerBytes (v : Node) : Nat := v.binarySize - (match v with
  | .null | .bool _ => 0
  | .number t _ | .string t => t.utf8ByteSize
  | .array items => itemsSize items
  | .object ms => membersSize ms)

/-- Where each element of an array that starts at `pos` starts. -/
def itemPlaces (items : List Node) (pos : Nat) : List (Node × Nat) :=
  (items.foldl (fun (acc : List (Node × Nat) × Nat) v => (acc.1 ++ [(v, acc.2)], acc.2 + v.binarySize))
    ([], pos + headerSize (itemsSize items))).1

/-- Where the name and the value of each member of an object that starts at `pos` start. -/
def memberPlaces (ms : List (String × Node)) (pos : Nat) : List (String × Node × Nat × Nat) :=
  (ms.foldl (fun (acc : List (String × Node × Nat × Nat) × Nat) (k, v) =>
      (acc.1 ++ [(k, v, acc.2, acc.2 + textSize k)], acc.2 + textSize k + v.binarySize))
    ([], pos + headerSize (membersSize ms))).1

/-- Follows the rest of a path (after `$`) from a part that starts at `pos` (its name at
`label`): the part the path names with where it and its name start, nothing when no part is
there, or an error for a malformed path. -/
def locate : Nat → Node → Nat → Option Nat → List Char →
    Except Unit (Option (Node × Nat × Option Nat))
  | 0, _, _, _, _ => .ok none
  | fuel + 1, v, pos, label, p =>
    match nextStep p with
    | .error () => .error ()
    | .ok none => .ok (some (v, pos, label))
    | .ok (some (s, rest)) =>
      match s, v with
      | .key k, .object ms =>
        match (memberPlaces ms pos).find? fun (k2, _) => decode k2 == decode k with
        | some (_, w, lo, vo) => locate fuel w vo (some lo) rest
        | none => .ok none
      | .key _, _ => .ok none
      | s, .array items =>
        match position s items.length with
        | some i =>
          match (itemPlaces items pos)[i]? with
          | some (w, o) => locate fuel w o none rest
          | none => .ok none
        | none => .ok none
      | _, _ => .ok none

/-- One row of a walk. -/
structure Entry where
  key : Value
  node : Node
  id : Nat
  parent : Option Nat
  fullkey : String
  path : String

/-- The path step to a member: `.name` for a name of ASCII letters and digits that starts with
a letter, `."name"` otherwise. -/
def memberStep (raw : String) : String :=
  let plain := match raw.toList with
    | c :: rest => (c.isAlpha && c.toNat < 0x80) && rest.all fun d => d.isAlphanum && d.toNat < 0x80
    | [] => false
  if plain then "." ++ raw else ".\"" ++ raw ++ "\""

/-- The rows of `json_tree` below a part that starts at `pos`: its elements or members, each
followed by the rows below it. -/
def below : Nat → Node → Nat → Nat → String → List Entry
  | 0, _, _, _, _ => []
  | fuel + 1, v, pos, id, full =>
    match v with
    | .array items =>
      (itemPlaces items pos).zipIdx.flatMap fun ((w, o), k) =>
        let fk := full ++ "[" ++ toString k ++ "]"
        { key := .integer k, node := w, id := o, parent := some id, fullkey := fk, path := full } ::
          below fuel w o o fk
    | .object ms =>
      (memberPlaces ms pos).flatMap fun (k, w, lo, vo) =>
        let fk := full ++ memberStep k
        { key := .text (decode k), node := w, id := lo, parent := some id, fullkey := fk,
          path := full } :: below fuel w vo lo fk
    | _ => []

/-- How much of a starting path is the path of the first row of `json_tree`: it is cut back
to the step after which the part of the rest starts the body of the part before, or to `$`. -/
def rootPathLength (doc : Node) (root : List Char) (id : Nat) : Nat :=
  let cuts := ((List.range root.length).reverse.filter fun n =>
    1 ≤ n && (root.getD n ' ' == '[' || root.getD n ' ' == '.'))
  let fits (n : Nat) : Bool :=
    match locate (n + 1) doc 0 none ((root.take n).drop 1) with
    | .ok (some (w, x, _)) => x + w.headerBytes == id
    | _ => false
  (cuts.find? fits).getD 1

/-- The key of the first row of `json_tree` from a starting path: none from `$`, else the last
step of the path as far as `rootPathLength` cuts it. -/
def rootKey (root : List Char) (cut : Nat) : Value :=
  let step := root.drop cut
  if root.length ≤ 1 || step.isEmpty then .null
  else
    match step with
    | '[' :: more => .integer (leadingInteger (String.ofList (more.takeWhile Char.isDigit))).1
    | _ :: '"' :: more => .text (String.ofList (more.take (step.length - 3)))
    | _ :: more => .text (String.ofList more)
    | [] => .null

/-- The rows of `json_each` (`recursive` false) or `json_tree` over a document, from the part a
path names (`$` for the whole). A null document or path gives no rows, as does a path to
nothing. -/
def walk (recursive : Bool) (doc : Value) (path : Option Value) : Except String (List Entry) :=
  match doc with
  | .null => .ok []
  | _ =>
    match parse doc.asText with
    | .error e => .error e
    | .ok node =>
      let root := match path with
        | some v => if v.isNull then none else some v.asText
        | none => some "$"
      match root with
      | none => .ok []
      | some r =>
        let rs := r.toList
        if rs.head? != some '$' then .error (Function.badPath r)
        else
          match locate (rs.length + 1) node 0 none (rs.drop 1) with
          | .error () => .error (Function.badPath r)
          | .ok none => .ok []
          | .ok (some (v, pos, label)) =>
            let id := label.getD pos
            if recursive then
              let cut := rootPathLength node rs id
              let first : Entry := { key := rootKey rs cut, node := v, id, parent := none,
                                     fullkey := r, path := String.ofList (rs.take cut) }
              .ok (first :: below (v.binarySize + 1) v pos id r)
            else
              match v with
              | .array items =>
                .ok ((itemPlaces items pos).zipIdx.map fun ((w, o), k) =>
                  { key := .integer k, node := w, id := o, parent := none,
                    fullkey := r ++ "[" ++ toString k ++ "]", path := r })
              | .object ms =>
                .ok ((memberPlaces ms pos).map fun (k, w, lo, _) =>
                  { key := .text (decode k), node := w, id := lo, parent := none,
                    fullkey := r ++ memberStep k, path := r })
              | _ => .ok [{ key := .null, node := v, id, parent := none, fullkey := r, path := r }]

/-- Whether a part is an array or an object. -/
def Node.isContainer : Node → Bool
  | .array _ | .object _ => true
  | _ => false

/-- The column values of a row of a walk: `key`, `value`, `type`, `atom`, `id`, `parent`,
`fullkey`, `path`, then the hidden `json` and `root`. -/
def Entry.values (e : Entry) (doc : Value) (root : String) : List Value :=
  [e.key, toValue e.node, .text e.node.typeName,
   if e.node.isContainer then .null else toValue e.node, .integer e.id,
   (e.parent.map fun p => Value.integer p).getD .null, .text e.fullkey, .text e.path,
   doc, .text root]

/-- The names of the columns of a walk; the last two are hidden. -/
def walkColumns : List String :=
  ["key", "value", "type", "atom", "id", "parent", "fullkey", "path", "json", "root"]

end Json

end Sql

end TelemetryBridge
