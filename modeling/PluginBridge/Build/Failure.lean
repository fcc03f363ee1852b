import PluginBridge.Manifest.Metadata

/-! Why a plugin cannot be built. -/
namespace PluginBridge.Build

/-- The two files generated for a plugin on a platform. -/
inductive Artifact where
  | bootstrap
  | descriptor
deriving DecidableEq, Repr

def Artifact.name : Artifact → String
  | .bootstrap => "bootstrap"
  | .descriptor => "descriptor"

inductive Failure where
  | invalid (fault : Manifest.Fault)
  /-- The metadata file is there but is no text. -/
  | unreadable (path : String)
  /-- The metadata file is not what it should be. -/
  | malformed (path : String)
  | missingVariable (name : String)
  | unwritable (artifact : Artifact) (path : String)
  /-- A name in the entry point would be no identifier. -/
  | unspeakable (main : String)
deriving DecidableEq, Repr

namespace Failure

def message : Failure → String
  | .invalid fault => "Invalid plugin metadata field '" ++ fault.field ++ "': " ++ fault.reason
  | .unreadable path => "Failed to read plugin metadata " ++ path
  | .malformed path => "Failed to parse plugin metadata " ++ path
  | .missingVariable name => "Environment variable " ++ name ++ " is not set"
  | .unwritable artifact path => "Failed to write " ++ artifact.name ++ " to " ++ path
  | .unspeakable main => "'" ++ main ++ "' is not a valid Ident"

end Failure
end PluginBridge.Build
