import TelemetryBridge.Config.Decode
import TelemetryBridge.Files.Disk

/-!
# Loading the configuration file

Loading reads the first YAML document of the file over the initial configuration, fills in the
defaults and validates the result. A file without any document gives the defaults. A file that
cannot be opened fails with the system's answer; a directory cannot be read; a text that is not
YAML fails as a syntax error, a value of the wrong type as a type error; and a configuration
with problems fails with all of them, after the name of the file.

Main definition: `Config.load`.
-/

namespace TelemetryBridge

namespace Config

/-- Loads the configuration file at a path. -/
def load (disk : Disk) (path : Bytes) : Except Failure Config := do
  let content ← match disk.open path with
    | .error f => .error f
    | .ok n =>
      match n.content with
      | some c => .ok c
      | none => .error (.say "yaml read error")
  let c ← match Yaml.firstDocument content with
    | .error _ => .error (.say "yaml syntax error")
    | .ok none => .ok initial
    | .ok (some doc) =>
      match ofYaml doc initial with
      | .ok c => .ok c
      | .error .unreadable => .error (.say "yaml syntax error")
      | .error .mismatch => .error (.say "yaml type error")
  let c := c.withDefaults
  match c.validate with
  | some problems =>
    .error (.context (Bytes.ofString "invalid config " ++ path) (.text (Bytes.ofString problems)))
  | none => .ok c

end Config

end TelemetryBridge
