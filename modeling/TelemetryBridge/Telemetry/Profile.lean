import TelemetryBridge.Text.Blank
import TelemetryBridge.Json.Reader
import TelemetryBridge.Files.Disk
import TelemetryBridge.Log.Entry

/-!
# Site profiles

A site profile is a JSON object that travels with every payload. A document is accepted as a
profile when, with blank characters trimmed from both ends, it starts with `{` and is one JSON
value. An accepted document is kept in compact form; when that form does not exist, which
happens when the trimmed blanks were not JSON whitespace, the profile is empty. Anything else
gives the empty profile `{}`.

Loading a profile from a file writes one log entry: a debug entry when the file cannot be read,
a warning when it is not accepted, and an info entry when it is. An empty path loads the empty
profile silently.

Main definitions: `Profile.accepts`, `Profile.ofDocument`, `Profile.load`.
-/

namespace TelemetryBridge

namespace Profile

/-- The empty profile. -/
def empty : Bytes := Bytes.ofString "{}"

/-- Whether a document is accepted as a profile. -/
def accepts (doc : Bytes) : Bool :=
  match Blank.trim doc with
  | 123 :: rest => Json.isValid (123 :: rest)
  | _ => false

/-- The compact form of a document, or the empty profile when it has none. -/
def compactOrEmpty (doc : Bytes) : Bytes := (Json.compact doc).getD empty

/-- The profile a document gives. -/
def ofDocument (doc : Bytes) : Bytes :=
  if accepts doc then compactOrEmpty doc else empty

/-- Loads the profile at a path, with the entry the loading writes. -/
def load (disk : Disk) (path : Bytes) : Bytes × List Log.Entry :=
  if path.isEmpty then (empty, [])
  else
    match disk.readFile path with
    | .error f =>
      (empty, [Log.withFailure .debug "No profile document, using empty profile" (some f)
        [("path", .text path)]])
    | .ok doc =>
      if accepts doc then
        (compactOrEmpty doc, [Log.entry .info "Profile document loaded" [("path", .text path)]])
      else
        (empty, [Log.entry .warn "Profile document is not a JSON object, using empty profile"
          [("path", .text path)]])

end Profile

end TelemetryBridge
