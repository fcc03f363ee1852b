import PluginBridge.Build.Write
import PluginBridge.Descriptor
import PluginBridge.EntryPoint.Source
import PluginBridge.Manifest.Sources

/-! Building a plugin: its entry point and descriptor for each platform it
targets, written below the output folder platform by platform. -/
namespace PluginBridge.Build
open Manifest

/-- What is generated for a plugin on a platform. -/
structure GeneratedPlugin where
  platform : Platform
  bootstrap : GeneratedFile
  descriptor : GeneratedFile
deriving DecidableEq, Repr

def GeneratedPlugin.files (plugin : GeneratedPlugin) : List GeneratedFile :=
  [plugin.bootstrap, plugin.descriptor]

/-- The files of a plugin for a platform, if its metadata has no fault. -/
def generate (metadata : Metadata) (platform : Platform) : Except Failure GeneratedPlugin := do
  let metadata ← metadata.checked
  match EntryPoint.source? metadata platform with
  | none => .error (.unspeakable metadata.main)
  | some source => return {
      platform
      bootstrap := ⟨.bootstrap, EntryPoint.fileName, source⟩
      descriptor := ⟨.descriptor, platform.descriptorPath, Descriptor.render metadata platform⟩
    }

/-- What comes out is the source of the entry point, which has one then, and the rendered
descriptor. -/
theorem generate_ok {metadata : Metadata} {platform : Platform} {plugin : GeneratedPlugin}
    (generated : generate metadata platform = .ok plugin) :
    ∃ source, EntryPoint.source? metadata platform = some source ∧
      plugin = ⟨platform, ⟨.bootstrap, EntryPoint.fileName, source⟩,
        ⟨.descriptor, platform.descriptorPath, Descriptor.render metadata platform⟩⟩ := by
  unfold generate at generated
  cases checked : metadata.checked with
  | error failure =>
    rw [checked] at generated
    cases generated
  | ok passed =>
    have same : passed = metadata := by
      unfold Metadata.checked at checked
      split at checked
      · cases checked
      · exact (Except.ok.inj checked).symm
    subst same
    simp only [checked, bind, Except.bind] at generated
    split at generated
    · cases generated
    · next source printed =>
      cases generated
      exact ⟨source, printed, rfl⟩

/-- The files for every platform the plugin targets. -/
def generateAll (metadata : Metadata) : Except Failure (List GeneratedPlugin) :=
  metadata.targets.mapM (generate metadata)

/-- The folder for generated files inside the output folder. -/
def outputName : String := "chameleon"

/-- Writes the files of one plugin after another. Those of a platform are
written all or none, those of the platforms before it stay. -/
def writePlugins (working : Files.Place) (root : String) :
    Files.Tree → List GeneratedPlugin → Files.Tree × Except Failure (List String)
  | tree, [] => (tree, .ok [])
  | tree, plugin :: rest =>
    match writeAll tree working (Files.join root plugin.platform.id) plugin.files with
    | (after, .error failure) => (after, .error failure)
    | (after, .ok written) =>
      match writePlugins working root after rest with
      | (final, .error failure) => (final, .error failure)
      | (final, .ok others) => (final, .ok (written ++ others))

/-- Builds the package in a folder into an output folder and gives the paths
written. -/
def buildIn (surroundings : Surroundings) (folder output : String) (package : Package) :
    Files.Tree × Except Failure (List String) :=
  match load surroundings folder package with
  | .error failure => (surroundings.files, .error failure)
  | .ok metadata =>
    match generateAll metadata with
    | .error failure => (surroundings.files, .error failure)
    | .ok plugins =>
      writePlugins surroundings.working (Files.join output outputName) surroundings.files plugins

/-- What a build script prints, does and says. -/
structure ScriptRun where
  printed : String
  files : Files.Tree
  result : Except Failure Unit

/-- The lines that tell the package manager when to build again. -/
def rebuildLines (folder : String) : String :=
  "cargo:rerun-if-changed=" ++ Files.join folder fileName ++ "\ncargo:rerun-if-changed=Cargo.toml\n"

/-- The build script: folders and package come from environment variables. -/
def run (surroundings : Surroundings) : ScriptRun :=
  match surroundings.setting? "CARGO_MANIFEST_DIR" with
  | none => ⟨"", surroundings.files, .error (.missingVariable "CARGO_MANIFEST_DIR")⟩
  | some folder =>
    match surroundings.setting? "OUT_DIR" with
    | none => ⟨"", surroundings.files, .error (.missingVariable "OUT_DIR")⟩
    | some output =>
      match Package.ofSurroundings surroundings with
      | .error failure => ⟨rebuildLines folder, surroundings.files, .error failure⟩
      | .ok package =>
        let (files, written) := buildIn surroundings folder output package
        ⟨rebuildLines folder, files, written.map fun _ => ()⟩

end PluginBridge.Build
