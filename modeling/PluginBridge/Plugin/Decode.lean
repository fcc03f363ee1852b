import PluginBridge.EventBus
import PluginBridge.Plugin.Core
import PluginBridge.Value.Decode

/-! What plugins are described with in messages: their data, and the priorities
of their listeners. -/
namespace PluginBridge.Plugin
open Decode

def decodeRequirement (value : Value) : Outcome Requirement := do
  let given ← record .message [.of "name" text, .of "soft" flag] true value
  return {
    name := ← given.required "name" text
    soft := ← given.withDefault "soft" flag false
  }

def decodeData (value : Value) : Outcome Data := do
  let given ← record .message
    [.of "id" text, .of "name" text, .of "version" text, .of "authors" (list text),
      .of "description" (optional text), .of "url" (optional text),
      .of "dependencies" (list decodeRequirement), .of "data_folder" (optional text)] true value
  return {
    id := ← given.required "id" text
    name := ← given.required "name" text
    version := ← given.required "version" text
    authors := ← given.withDefault "authors" (list text) []
    description := ← given.withDefault "description" (optional text) none
    url := ← given.withDefault "url" (optional text) none
    dependencies := ← given.withDefault "dependencies" (list decodeRequirement) []
    dataFolder := ← given.withDefault "data_folder" (optional text) none
  }

def Requirement.value (requirement : Requirement) : Value :=
  .table [("name", .text requirement.name), ("soft", .flag requirement.soft)]

/-- The data as a message gives it, with nothing left out. -/
def Data.value (data : Data) : Value :=
  .table [("authors", .list (data.authors.map .text)),
    ("data_folder", .optionalText data.dataFolder),
    ("dependencies", .list (data.dependencies.map (·.value))),
    ("description", .optionalText data.description), ("id", .text data.id),
    ("name", .text data.name), ("url", .optionalText data.url), ("version", .text data.version)]

def decodePriority : Value → Outcome Priority :=
  choice .message Priority.ofName?

end PluginBridge.Plugin
