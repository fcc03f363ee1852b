import PluginBridge.Text.Label

/-! Host platforms and what a plugin build needs to know of each: its name, the
manifest file its host reads, and the adapter its entry point binds to. -/
namespace PluginBridge.Manifest

inductive Platform where
  | bukkit
  | bungeeCord
  | nukkit
  | velocity
  | sponge
  | minestom
  | memory
deriving DecidableEq, Repr

/-- How the manifest of a host is written. -/
inductive Format where
  | yaml
  | json
deriving DecidableEq, Repr

namespace Platform

/-- The game hosts, which a plugin targets unless it says otherwise. -/
def games : List Platform :=
  [.bukkit, .bungeeCord, .nukkit, .velocity, .sponge, .minestom]

/-- Every platform. The in-process host is targeted only by name. -/
def known : List Platform :=
  games ++ [.memory]

/-- The spelling in manifests, which also names the generated module. -/
def id : Platform → String
  | .bukkit => "bukkit"
  | .bungeeCord => "bungeecord"
  | .nukkit => "nukkit"
  | .velocity => "velocity"
  | .sponge => "sponge"
  | .minestom => "minestom"
  | .memory => "memory"

/-- The spelling for people, which also ends the entry point's name. -/
def title : Platform → String
  | .bukkit => "Bukkit"
  | .bungeeCord => "BungeeCord"
  | .nukkit => "Nukkit"
  | .velocity => "Velocity"
  | .sponge => "Sponge"
  | .minestom => "Minestom"
  | .memory => "Memory"

/-- Where the host looks for the descriptor. -/
def descriptorPath : Platform → String
  | .bukkit => "plugin.yml"
  | .bungeeCord => "bungee.yml"
  | .nukkit => "nukkit.yml"
  | .velocity => "velocity-plugin.json"
  | .sponge => "META-INF/sponge_plugins.json"
  | .minestom => "extension.json"
  | .memory => "chameleon-plugin.json"

def format : Platform → Format
  | .bukkit | .bungeeCord | .nukkit => .yaml
  | .velocity | .sponge | .minestom | .memory => .json

/-- The package that provides the adapter of the host. -/
def adapterPackage (platform : Platform) : String :=
  "chameleon_platform_" ++ platform.id

/-- The adapter's type inside its package. -/
def adapterType (platform : Platform) : String :=
  platform.title ++ "Platform"

/-- The platform with exactly this spelling. -/
def ofId? (text : String) : Option Platform :=
  known.find? fun platform => platform.id == text

/-- The platform with this spelling in capital or small ASCII letters. -/
def ofLabel? (text : String) : Option Platform :=
  known.find? fun platform => Text.sameLabel platform.id text

def unknownMessage (text : String) : String :=
  "unknown platform '" ++ text ++ "'"

end Platform
end PluginBridge.Manifest
