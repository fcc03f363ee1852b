import PluginBridge.Adapter
import PluginBridge.Settings.Loader

/-! A plugin core: one plugin on one host, with what it knows of itself, an adapter, its settings
and the code of its hooks. It is enabled at most once and disabled at most once after. -/
namespace PluginBridge.Plugin

/-- Another plugin that this one builds on, on the platform it runs on. -/
structure Requirement where
  name : String
  soft : Bool
deriving DecidableEq, Repr

structure Data where
  id : String
  name : String
  version : String
  authors : List String
  description : Option String
  url : Option String
  dependencies : List Requirement
  /-- Where the plugin keeps its files; the platform chooses unless it is set. -/
  dataFolder : Option String
deriving DecidableEq, Repr

abbrev CoreId := Nat

inductive Stage where
  | loaded
  | enabled
  | disabled
deriving DecidableEq, Repr

/-- The stage as diagnostics show it. -/
def Stage.title : Stage → String
  | .loaded => "Loaded"
  | .enabled => "Enabled"
  | .disabled => "Disabled"

/-- The moments at which a plugin is asked to act. -/
inductive Hook where
  | create
  | enable
  | disable
deriving DecidableEq, Repr

def Hook.name : Hook → String
  | .create => "create"
  | .enable => "enable"
  | .disable => "disable"

structure Core where
  data : Data
  adapter : AdapterId
  settings : Settings.Loaded
  /-- The code of the hooks. -/
  code : CodeId
  /-- The stage, once the plugin has been constructed. -/
  stage : Option Stage
  /-- Whether one of its hooks is running after construction. -/
  busy : Bool

namespace Core

/-- The plugin's context as diagnostics show it. -/
def contextDiagnostic (core : Core) (platform : String) : String :=
  "PluginContext \x7b plugin: " ++ Text.quoted core.data.id ++ ", platform: " ++
    Text.quoted platform ++ ", .. \x7d"

/-- The core as diagnostics show it. -/
def diagnostic (core : Core) (platform : String) (stage : Stage) : String :=
  "Chameleon \x7b context: " ++ core.contextDiagnostic platform ++ ", state: " ++ stage.title ++
    ", .. \x7d"

end Core

/-- Why a plugin cannot be loaded. -/
inductive LoadFailure where
  | settings (failure : Settings.Failure)
  | platform (name : String) (failure : AdapterFailure)
  | construction (plugin reason : String)
  | panicked (plugin reason : String)
deriving DecidableEq, Repr

def LoadFailure.message : LoadFailure → String
  | .settings failure => "Failed to load configuration: " ++ failure.message
  | .platform name failure =>
    "Failed to initialize platform '" ++ name ++ "': " ++ failure.message
  | .construction plugin reason => "Failed to construct plugin '" ++ plugin ++ "': " ++ reason
  | .panicked plugin reason =>
    "Plugin '" ++ plugin ++ "' panicked during construction: " ++ reason

/-- Why a plugin cannot be enabled or disabled. -/
inductive LifecycleFailure where
  | wrongStage (moment : Hook) (stage : Stage)
  | platform (failure : AdapterFailure)
  | hook (plugin : String) (moment : Hook) (reason : String)
deriving DecidableEq, Repr

def LifecycleFailure.message : LifecycleFailure → String
  | .wrongStage moment stage => "Cannot " ++ moment.name ++ " plugin in state " ++ stage.title
  | .platform failure => "Failed to register platform listeners: " ++ failure.message
  | .hook plugin moment reason =>
    "Plugin '" ++ plugin ++ "' failed to " ++ moment.name ++ ": " ++ reason

/-- A plugin behind its entry point, which loads it when the host enables it
for the first time. -/
structure Entry where
  data : Data
  code : CodeId
  /-- Where the platform keeps the plugin's files. -/
  dataFolder : Option String
  /-- Whether the host has enabled it. -/
  used : Bool
  core : Option CoreId

abbrev EntryId := Nat

end PluginBridge.Plugin
