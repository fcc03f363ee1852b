import PluginBridge.Document
import PluginBridge.Document.Yaml
import PluginBridge.Manifest.Metadata
import PluginBridge.Text.LetterCase

/-! Descriptors: the manifest each host reads to find a plugin, its entry point
and its dependencies. Every host has its own fields; all of them are filled
from the same metadata. -/
namespace PluginBridge.Descriptor
open Manifest Document

/-- A dependency by its name and whether the host may do without it. -/
def dependencyEntry (name : String) (soft : Bool) : Document :=
  .fields [("id", .text name), ("optional", .flag soft)]

/-- Dependencies by their names in small letters, the hard ones first. -/
def byPlainId (entry : String → Bool → Document) (metadata : Metadata) (platform : Platform) :
    Document :=
  let plain (soft : Bool) (name : String) := entry (Text.LetterCase.toSmall name) soft
  .list ((metadata.hardNames platform).map (plain false) ++
    (metadata.softNames platform).map (plain true))

def spongeDependency (name : String) (soft : Bool) : Document :=
  .fields [("id", .text name), ("version", .text "*"), ("load-order", .text "after"),
    ("optional", .flag soft)]

def bukkit (metadata : Metadata) : Document :=
  .fields ([("name", .text metadata.displayName),
    ("main", .text (metadata.entryReference .bukkit)),
    ("version", .text metadata.version),
    ("api-version", .text "1.13"),
    ("author", .text metadata.authorLine),
    ("authors", texts metadata.authors)] ++
    optionalEntry "website" metadata.url ++
    [("depend", texts (metadata.hardNames .bukkit)),
    ("softdepend", texts (metadata.softNames .bukkit))] ++
    optionalEntry "description" metadata.description)

def bungeeCord (metadata : Metadata) : Document :=
  .fields ([("name", .text metadata.displayName),
    ("main", .text (metadata.entryReference .bungeeCord)),
    ("version", .text metadata.version),
    ("author", .text metadata.authorLine),
    ("depends", texts (metadata.hardNames .bungeeCord)),
    ("softDepends", texts (metadata.softNames .bungeeCord))] ++
    optionalEntry "description" metadata.description)

def nukkit (metadata : Metadata) : Document :=
  .fields ([("name", .text metadata.displayName),
    ("main", .text (metadata.entryReference .nukkit)),
    ("version", .text metadata.version),
    ("api", texts ["1.0.0"]),
    ("author", .text metadata.authorLine),
    ("authors", texts metadata.authors)] ++
    optionalEntry "website" metadata.url ++
    [("depend", texts (metadata.hardNames .nukkit)),
    ("softdepend", texts (metadata.softNames .nukkit))] ++
    optionalEntry "description" metadata.description)

def velocity (metadata : Metadata) : Document :=
  .fields ([("id", .text metadata.id),
    ("name", .text metadata.displayName),
    ("version", .text metadata.version)] ++
    optionalEntry "description" metadata.description ++
    optionalEntry "url" metadata.url ++
    [("authors", texts metadata.authors),
    ("dependencies", byPlainId dependencyEntry metadata .velocity),
    ("main", .text (metadata.entryReference .velocity))])

def sponge (metadata : Metadata) : Document :=
  .fields [("plugins", .list [.fields ([("id", .text metadata.id),
    ("name", .text metadata.displayName),
    ("version", .text metadata.version),
    ("entrypoint", .text (metadata.entryReference .sponge))] ++
    optionalEntry "description" metadata.description ++
    metadata.url.toList.map (fun url => ("links", .fields [("homepage", .text url)])) ++
    [("contributors", .list (metadata.authors.map fun author => .fields [("name", .text author)])),
    ("dependencies", byPlainId spongeDependency metadata .sponge)])])]

/-- This host knows hard dependencies only. -/
def minestom (metadata : Metadata) : Document :=
  .fields [("entrypoint", .text (metadata.entryReference .minestom)),
    ("name", .text metadata.displayName),
    ("version", .text metadata.version),
    ("authors", texts metadata.authors),
    ("dependencies", texts (metadata.hardNames .minestom))]

def memory (metadata : Metadata) : Document :=
  .fields [("id", .text metadata.id),
    ("name", .text metadata.displayName),
    ("version", .text metadata.version),
    ("main", .text (metadata.entryReference .memory)),
    ("authors", texts metadata.authors),
    ("dependencies", .list ((metadata.dependenciesOn .memory).map fun dependency =>
      dependencyEntry dependency.name dependency.soft))]

/-- The descriptor of a plugin for a platform. -/
def document (metadata : Metadata) : Platform → Document
  | .bukkit => bukkit metadata
  | .bungeeCord => bungeeCord metadata
  | .nukkit => nukkit metadata
  | .velocity => velocity metadata
  | .sponge => sponge metadata
  | .minestom => minestom metadata
  | .memory => memory metadata

def render (metadata : Metadata) (platform : Platform) : String :=
  match platform.format with
  | .yaml => Document.Yaml.file (document metadata platform)
  | .json => Document.Json.file (document metadata platform)

end PluginBridge.Descriptor
