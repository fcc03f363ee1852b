import PluginBridge.Manifest.Metadata
import PluginBridge.Value.Decode

/-! Metadata as it is written: whole, as a message gives it, and in part, as the
manifest file of a plugin does. The manifest file and its plugin table refuse
keys they do not know; a dependency ignores them. -/
namespace PluginBridge.Manifest
open Decode

def decodePlatform (source : Source) : Value → Outcome Platform :=
  choice source Platform.ofId?

def decodeDependency (source : Source) (value : Value) : Outcome Dependency := do
  let platforms := list (decodePlatform source)
  let given ← record source
    [.of "name" text, .of "soft" flag, .of "platforms" platforms] true value
  return {
    name := ← given.required "name" text
    soft := ← given.withDefault "soft" flag false
    platforms := ← given.withDefault "platforms" platforms []
  }

def decodeMetadata (value : Value) : Outcome Metadata := do
  let dependencies := list (decodeDependency .message)
  let platforms := list (decodePlatform .message)
  let given ← record .message
    [.of "id" text, .of "name" text, .of "version" text, .of "authors" (list text),
      .of "url" (optional text), .of "description" (optional text), .of "main" text,
      .of "dependencies" dependencies, .of "platforms" platforms] true value
  return {
    id := ← given.required "id" text
    name := ← given.withDefault "name" text ""
    version := ← given.required "version" text
    authors := ← given.withDefault "authors" (list text) []
    url := ← given.withDefault "url" (optional text) none
    description := ← given.withDefault "description" (optional text) none
    main := ← given.required "main" text
    dependencies := ← given.withDefault "dependencies" dependencies []
    platforms := ← given.withDefault "platforms" platforms []
  }

def Dependency.value (dependency : Dependency) : Value :=
  .table [("name", .text dependency.name),
    ("platforms", .list (dependency.platforms.map (.text ·.id))), ("soft", .flag dependency.soft)]

/-- The metadata as a message gives it, with nothing left out. -/
def Metadata.value (metadata : Metadata) : Value :=
  .table [("authors", .list (metadata.authors.map .text)),
    ("dependencies", .list (metadata.dependencies.map (·.value))),
    ("description", .optionalText metadata.description), ("id", .text metadata.id),
    ("main", .text metadata.main), ("name", .text metadata.name),
    ("platforms", .list (metadata.platforms.map (.text ·.id))),
    ("url", .optionalText metadata.url), ("version", .text metadata.version)]

/-- What a manifest file says of its plugin. Everything may be left out. -/
structure Partial where
  id : Option String
  name : Option String
  version : Option String
  authors : Option (List String)
  url : Option String
  description : Option String
  main : Option String
  dependencies : Option (List Dependency)
  platforms : Option (List Platform)
deriving DecidableEq, Repr

def Partial.empty : Partial :=
  ⟨none, none, none, none, none, none, none, none, none⟩

def decodePartial (value : Value) : Outcome Partial := do
  let dependencies := list (decodeDependency .manifest)
  let platforms := list (decodePlatform .manifest)
  let given ← record .manifest
    [.of "id" text, .of "name" text, .of "version" text, .of "authors" (list text),
      .of "url" text, .of "description" text, .of "main" text,
      .of "dependencies" dependencies, .of "platforms" platforms] false value
  return {
    id := ← given.ifGiven "id" text
    name := ← given.ifGiven "name" text
    version := ← given.ifGiven "version" text
    authors := ← given.ifGiven "authors" (list text)
    url := ← given.ifGiven "url" text
    description := ← given.ifGiven "description" text
    main := ← given.ifGiven "main" text
    dependencies := ← given.ifGiven "dependencies" dependencies
    platforms := ← given.ifGiven "platforms" platforms
  }

/-- A manifest file, which may hold nothing but the plugin's table. -/
def decodeFile (value : Value) : Outcome Partial := do
  let given ← record .manifest [.of "plugin" decodePartial] false value
  given.withDefault "plugin" decodePartial .empty

end PluginBridge.Manifest
