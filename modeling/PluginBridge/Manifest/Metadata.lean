import PluginBridge.Manifest.Platform
import PluginBridge.Manifest.Reference
import PluginBridge.Text.Character

/-! Plugin metadata: what a plugin says about itself once, for every host. The
functions here derive what descriptors and entry points repeat. -/
namespace PluginBridge.Manifest

/-- Another plugin that this one builds on. -/
structure Dependency where
  name : String
  /-- A soft dependency only affects the load order. -/
  soft : Bool
  /-- The platforms it matters on; none named means all of them. -/
  platforms : List Platform
deriving DecidableEq, Repr

def Dependency.appliesTo (dependency : Dependency) (platform : Platform) : Bool :=
  dependency.platforms.isEmpty || dependency.platforms.contains platform

structure Metadata where
  id : String
  /-- The name shown to people; an empty one stands for the id. -/
  name : String
  version : String
  authors : List String
  url : Option String
  description : Option String
  /-- The plugin's type, from the root of its package. -/
  main : String
  dependencies : List Dependency
  /-- The platforms to build for; none named means the game hosts. -/
  platforms : List Platform
deriving DecidableEq, Repr

namespace Metadata

def displayName (metadata : Metadata) : String :=
  if metadata.name.isEmpty then metadata.id else metadata.name

/-- The authors in one line, for hosts that know a single author. -/
def authorLine (metadata : Metadata) : String :=
  if metadata.authors.isEmpty then "Unknown" else String.intercalate ", " metadata.authors

/-- The dependencies that matter on a platform, as declared. -/
def dependenciesOn (metadata : Metadata) (platform : Platform) : List Dependency :=
  metadata.dependencies.filter (·.appliesTo platform)

/-- Names of the dependencies a platform cannot do without. -/
def hardNames (metadata : Metadata) (platform : Platform) : List String :=
  ((metadata.dependenciesOn platform).filter (!·.soft)).map (·.name)

/-- Names of the dependencies that only order loading. -/
def softNames (metadata : Metadata) (platform : Platform) : List String :=
  ((metadata.dependenciesOn platform).filter (·.soft)).map (·.name)

def mainType (metadata : Metadata) : String :=
  Reference.lastSegment metadata.main

def mainModule (metadata : Metadata) : List String :=
  (Reference.segments metadata.main).dropLast

/-- Modules that hold what all platforms share. -/
def sharedModules : List String := ["core", "common"]

/-- The main module without a trailing shared module. -/
def ownModule (metadata : Metadata) : List String :=
  match metadata.mainModule.getLast? with
  | some last =>
    if sharedModules.contains last then metadata.mainModule.dropLast else metadata.mainModule
  | none => metadata.mainModule

/-- The module of the entry point. -/
def entryModule (metadata : Metadata) (platform : Platform) : List String :=
  metadata.ownModule ++ ["platform", platform.id]

/-- The type name of the entry point. -/
def entryType (metadata : Metadata) (platform : Platform) : String :=
  metadata.mainType ++ platform.title

/-- The entry point as a descriptor names it. -/
def entryReference (metadata : Metadata) (platform : Platform) : String :=
  Reference.joined (metadata.entryModule platform ++ [metadata.entryType platform])

/-- The platforms to build for. -/
def targets (metadata : Metadata) : List Platform :=
  if metadata.platforms.isEmpty then Platform.games else metadata.platforms

end Metadata

/-- Why metadata cannot be used. -/
inductive Fault where
  | emptyId
  | idCharacter (id : String) (character : Char)
  | blankVersion
  | emptyMain
  | mainSegment (segment main : String)
  | namelessDependency (soft : Bool)
deriving DecidableEq, Repr

namespace Fault

/-- The field at fault. -/
def field : Fault → String
  | .emptyId | .idCharacter .. => "id"
  | .blankVersion => "version"
  | .emptyMain | .mainSegment .. => "main"
  | .namelessDependency _ => "dependencies"

def reason : Fault → String
  | .emptyId | .blankVersion | .emptyMain => "must not be empty"
  | .idCharacter id character =>
    "'" ++ id ++ "' contains '" ++ character.toString ++ "', only [a-z0-9_-] are allowed"
  | .mainSegment segment main => "'" ++ segment ++ "' in '" ++ main ++ "' is not an identifier"
  | .namelessDependency soft =>
    "dependency with empty name (soft = " ++ (if soft then "true" else "false") ++ ")"

end Fault

/-- The characters an id is made of. -/
def isIdCharacter (c : Char) : Bool :=
  ('a' ≤ c && c ≤ 'z') || c.isDigit || c == '_' || c == '-'

namespace Metadata

def idFault (id : String) : Option Fault :=
  if id.isEmpty then some .emptyId
  else (id.toList.find? fun c => !isIdCharacter c).map (.idCharacter id)

def versionFault (version : String) : Option Fault :=
  if Text.isBlankText version then some .blankVersion else none

def mainFault (main : String) : Option Fault :=
  if main.isEmpty then some .emptyMain
  else ((Reference.segments main).find? fun segment => !Reference.isIdentifier segment).map
    (.mainSegment · main)

def dependencyFault (dependencies : List Dependency) : Option Fault :=
  (dependencies.find? (·.name.isEmpty)).map fun dependency => .namelessDependency dependency.soft

/-- The first fault, in the order id, version, main, dependencies. -/
def fault? (metadata : Metadata) : Option Fault :=
  idFault metadata.id <|> versionFault metadata.version <|> mainFault metadata.main <|>
    dependencyFault metadata.dependencies

end Metadata
end PluginBridge.Manifest
