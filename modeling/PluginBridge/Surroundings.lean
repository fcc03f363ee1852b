import PluginBridge.Files.Tree

/-! What surrounds a run: the files, the environment variables, and the folders
that paths start from. -/
namespace PluginBridge

structure Surroundings where
  files : Files.Tree
  environment : List (String × String)
  /-- The current folder, as an absolute path. -/
  workingFolder : String
  /-- The folder for the user's settings, as an absolute path. -/
  settingsFolder : String

namespace Surroundings

def working (surroundings : Surroundings) : Files.Place :=
  Files.names surroundings.workingFolder

def setting? (surroundings : Surroundings) (name : String) : Option String :=
  surroundings.environment.lookup name

/-- The bytes of the file at a path. -/
def read? (surroundings : Surroundings) (path : String) : Option ByteArray :=
  surroundings.files.read? surroundings.working path

def holds (surroundings : Surroundings) (path : String) : Bool :=
  (surroundings.files.at? surroundings.working path).isSome

end Surroundings
end PluginBridge
