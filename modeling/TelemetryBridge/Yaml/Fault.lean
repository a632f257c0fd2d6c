/-!
# Why a YAML text cannot be read

Reading a YAML text goes through four layers, and each can refuse it: the bytes must decode to
characters YAML allows, the characters must form tokens, the tokens must form a document, and
every alias in the document must name an anchor defined before it.

Main definition: `Yaml.Fault`.
-/

namespace TelemetryBridge

namespace Yaml

/-- Why a YAML text cannot be read. -/
inductive Fault where
  /-- The bytes are not characters that a YAML text may hold. -/
  | undecodable
  /-- The characters do not form tokens. -/
  | token (problem : String)
  /-- The tokens do not form a document. -/
  | grammar (problem : String)
  /-- An alias names an anchor that no node before it defines. -/
  | unknownAnchor (name : String)
  deriving Repr, Inhabited

end Yaml

end TelemetryBridge
