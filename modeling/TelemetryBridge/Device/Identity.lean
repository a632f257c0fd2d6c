import TelemetryBridge.Json.Decode
import TelemetryBridge.Json.Writer
import TelemetryBridge.Files.Disk

/-!
# Device identity

A device identity is an identifier and a name, read from a JSON file with the members
`device_id` and `device_name` (keys matched up to case).

Loading reads the first JSON value of the file over the identity held so far: members that are
absent keep their values, and whatever follows the first value is ignored. A member of the wrong
type is skipped while the others still apply, and the load then reports a type error. A missing
file, or an empty path, resets the identity and is no error; any other failure leaves the
identity as it was.

Main definitions: `Identity`, `Identity.load`, `Identity.document`.
-/

namespace TelemetryBridge

open Json

/-- Who the device is. -/
structure Identity where
  deviceId : Bytes := []
  deviceName : Bytes := []
  deriving Inhabited, DecidableEq

namespace Identity

/-- Applies one member; `false` when its value has the wrong type. -/
def set (i : Identity) (key : Bytes) (v : Value) : Identity × Bool :=
  let text : Option (Option Bytes) := match v with
    | .string s => some (some s)
    | .null => some none
    | _ => none
  if keyMatches key "device_id" then
    match text with
    | some (some s) => ({ i with deviceId := s }, true)
    | some none => (i, true)
    | none => (i, false)
  else if keyMatches key "device_name" then
    match text with
    | some (some s) => ({ i with deviceName := s }, true)
    | some none => (i, true)
    | none => (i, false)
  else (i, true)

/-- Lays a decoded value over an identity; the flag says every member had the right type. -/
def merge (i : Identity) : Value → Identity × Bool
  | .null => (i, true)
  | .object ms => ms.foldl (fun (i, ok) (k, v) => let (i', ok') := i.set k v; (i', ok && ok')) (i, true)
  | _ => (i, false)

/-- Loads the identity file at a path over the identity held so far. -/
def load (disk : Disk) (path : Bytes) (prev : Identity) : Identity × Option Failure :=
  if path.isEmpty then ({}, none)
  else
    match disk.open path with
    | .error f => if f.kind == .notExist then ({}, none) else (prev, some f)
    | .ok n =>
      match n.content with
      | none => (prev, some (.os "read" path .isDirectory))
      | some content =>
        match firstValue content with
        | .error e => (prev, some e.failure)
        | .ok (v, _) =>
          let (i, ok) := prev.merge v
          (i, if ok then none else some (DecodeError.mismatch.failure))

/-- The JSON document of an identity; empty members are left out. -/
def document (i : Identity) : Bytes :=
  let ms := (if i.deviceId.isEmpty then [] else [(Bytes.ofString "device_id", Value.string i.deviceId)]) ++
    (if i.deviceName.isEmpty then [] else [(Bytes.ofString "device_name", Value.string i.deviceName)])
  (Value.object ms).render true

end Identity

end TelemetryBridge
