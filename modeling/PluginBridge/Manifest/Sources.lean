import PluginBridge.Build.Failure
import PluginBridge.Manifest.Decode
import PluginBridge.Surroundings
import PluginBridge.Toml.Document

/-! Where metadata comes from: the package being built, and a manifest file
beside it whose values win. -/
namespace PluginBridge.Manifest
open Build

/-- What the package manager knows of the package being built. -/
structure Package where
  name : String
  version : String
  authors : List String
  description : Option String
  homepage : Option String
deriving DecidableEq, Repr

/-- The package as its build sees it, in environment variables. Empty optional
variables count as missing. -/
def Package.ofSurroundings (surroundings : Surroundings) : Except Failure Package := do
  let required (name : String) : Except Failure String :=
    (surroundings.setting? name).elim (.error (.missingVariable name)) .ok
  let given (name : String) : Option String :=
    (surroundings.setting? name).filter fun value => !value.isEmpty
  return {
    name := ← required "CARGO_PKG_NAME"
    version := ← required "CARGO_PKG_VERSION"
    authors := ((given "CARGO_PKG_AUTHORS").map (Text.piecesAt ':')).getD []
    description := given "CARGO_PKG_DESCRIPTION"
    homepage := given "CARGO_PKG_HOMEPAGE"
  }

/-- The name of the manifest file. -/
def fileName : String := "Chameleon.toml"

/-- Reads the text of a manifest file. -/
def parseFile (text path : String) : Except Failure Partial :=
  match Toml.parse? text with
  | none => .error (.malformed path)
  | some entries => (decodeFile (.table entries)).mapError fun _ => .malformed path

def asciiSmall (text : String) : String :=
  String.ofList (Text.fold text)

/-- The metadata of a package with what its manifest file says. -/
def combine (package : Package) (file : Partial) : Metadata where
  id := file.id.getD (asciiSmall package.name)
  name := file.name.getD package.name
  version := file.version.getD package.version
  authors := file.authors.getD package.authors
  url := file.url <|> package.homepage
  description := file.description <|> package.description
  main := file.main.getD ""
  dependencies := file.dependencies.getD []
  platforms := file.platforms.getD []

/-- The metadata itself if nothing is wrong with it. -/
def Metadata.checked (metadata : Metadata) : Except Failure Metadata :=
  match metadata.fault? with
  | some fault => .error (.invalid fault)
  | none => .ok metadata

def fromSources (package : Package) (file : Option Partial) : Except Failure Metadata :=
  (combine package (file.getD .empty)).checked

/-- The metadata of the package in a folder. -/
def load (surroundings : Surroundings) (folder : String) (package : Package) :
    Except Failure Metadata := do
  let path := Files.join folder fileName
  match surroundings.read? path with
  | none => fromSources package none
  | some bytes =>
    match String.fromUTF8? bytes with
    | none => .error (.unreadable path)
    | some text => do
      let file ← parseFile text path
      fromSources package (some file)

end PluginBridge.Manifest
