import PluginBridge.EntryPoint.Token
import PluginBridge.Manifest.Metadata
import PluginBridge.Plugin.Core

/-! The entry point of a plugin on a platform: a type that holds the host's
adapter, builds the plugin's core on the first enable and hands the host's
enable and disable on to it. What it says of the plugin is the plugin's data on
that platform. -/
namespace PluginBridge.EntryPoint
open Manifest Plugin

/-- The data of a plugin as its entry point on a platform gives it. -/
def data (metadata : Metadata) (platform : Platform) : Data where
  id := metadata.id
  name := metadata.displayName
  version := metadata.version
  authors := metadata.authors
  description := metadata.description
  url := metadata.url
  dependencies := (metadata.dependenciesOn platform).map fun dependency =>
    ⟨dependency.name, dependency.soft⟩
  dataFolder := none

/-- A name as a token, for texts that are identifiers. -/
def name? (text : String) : Option Token :=
  if Reference.isIdentifier text then some (.plain text) else none

/-- An owned string with a constant value. -/
def ownedText (value : String) : List Token :=
  phrase ":: std :: string :: String :: from" ++ [round [.text value]]

def absent : List Token :=
  phrase ":: core :: option :: Option :: None"

def present (content : List Token) : List Token :=
  phrase ":: core :: option :: Option :: Some" ++ [round content]

def optionalText : Option String → List Token
  | none => absent
  | some value => present (ownedText value)

def vector (items : List (List Token)) : List Token :=
  phrase ":: std :: vec !" ++ [square (commas items)]

/-- A field of a record literal, comma included. -/
def field (name : String) (value : List Token) : List Token :=
  phrase (name ++ " :") ++ value ++ [.plain ","]

def requirementLiteral (requirement : Requirement) : List Token :=
  phrase ":: chameleon_runtime :: PluginDependency" ++
    [curly (field "name" (ownedText requirement.name) ++
      field "soft" [.plain (if requirement.soft then "true" else "false")])]

def dataLiteral (data : Data) : List Token :=
  phrase ":: chameleon_runtime :: PluginData" ++
    [curly (field "id" (ownedText data.id) ++ field "name" (ownedText data.name) ++
      field "version" (ownedText data.version) ++
      field "authors" (vector (data.authors.map ownedText)) ++
      field "description" (optionalText data.description) ++
      field "url" (optionalText data.url) ++
      field "dependencies" (vector (data.dependencies.map requirementLiteral)) ++
      field "data_folder" (optionalText data.dataFolder))]

/-- Constant source, then brackets. -/
def call (head : String) (arguments : List Token) : List Token :=
  phrase head ++ [round arguments]

/-- A line that documents what follows. -/
def note (line : String) : List Token :=
  phrase "#" ++ [square (phrase "doc =" ++ [.raw (" " ++ line)])]

/-- A call that logs an error under a message. -/
def logError (message : String) : List Token :=
  call ":: chameleon_runtime :: tracing :: error !"
    (phrase "error = % error ," ++ [.text message]) ++ phrase ";"

def failed (content : List Token) : List Token :=
  call ":: core :: result :: Result :: Err" (phrase "error") ++ phrase "=>" ++ [curly content]

/-- The body of a branch taken when a method gives a failure. -/
def ifFailed (method : String) (content : List Token) : List Token :=
  call "if let :: core :: result :: Result :: Err" (phrase "error") ++ phrase "=" ++
    call method [] ++ [curly content]

def typeDeclaration (type : Token) (adapter : List Token) : List Token :=
  note "Host entry point owning the Chameleon core." ++ phrase "pub struct" ++ [type,
    curly (phrase "platform : :: core :: option :: Option <" ++ adapter ++
      phrase "> , core : :: core :: option :: Option < :: chameleon_runtime :: Chameleon > ,")]

def constructor (adapter : List Token) : List Token :=
  call "pub fn new" (phrase "platform :" ++ adapter) ++ phrase "-> Self" ++
    [curly (phrase "Self" ++ [curly
      (field "platform" (present (phrase "platform")) ++ field "core" absent)])]

def enableMethod (main : List Token) (data : Data) : List Token :=
  note "Builds the core and enables the plugin. Only the first call" ++ note "does anything." ++
    call "pub fn on_enable" (phrase "& mut self") ++
    [curly (phrase "let" ++ present (phrase "platform") ++
      call "= self . platform . take" [] ++ phrase "else" ++ [curly (phrase "return ;")] ++
      phrase "; let data =" ++ dataLiteral data ++
      phrase "; let core = match :: chameleon_runtime :: ChameleonBootstrap" ++
      call ":: new" (phrase "platform , data") ++ phrase ". load :: < crate" ++ main ++
      call ">" [] ++
      [curly (call ":: core :: result :: Result :: Ok" (phrase "core") ++
        call "=> self . core . insert" (phrase "core") ++ phrase "," ++
        failed (logError "An error occurred while loading Chameleon" ++ phrase "return ;"))] ++
      phrase ";" ++
      ifFailed "core . on_enable" (logError "An error occurred while enabling Chameleon"))]

def disableMethod : List Token :=
  call "pub fn on_disable" (phrase "& mut self") ++
    [curly (phrase "if let" ++ present (phrase "core") ++ call "= self . core . as_mut" [] ++
      [curly (ifFailed "core . on_disable"
        (logError "An error occurred while disabling Chameleon"))])]

def coreMethod : List Token :=
  note "The core, once enable has built it." ++
    call "pub fn chameleon" (phrase "& self") ++
    phrase "-> :: core :: option :: Option < & :: chameleon_runtime :: Chameleon >" ++
    [curly (call "self . core . as_ref" [])]

/-- The whole source, for names that have been checked. -/
def program (type : Token) (adapter main : List Token) (data : Data) : List Token :=
  typeDeclaration type adapter ++ phrase "impl" ++ [type, curly (constructor adapter ++
    enableMethod main data ++ disableMethod ++ coreMethod)]

/-- The source of the entry point. There is none when a name in it would be no
identifier. -/
def tokens? (metadata : Metadata) (platform : Platform) : Option (List Token) := do
  let type ← name? (metadata.entryType platform)
  let package ← name? platform.adapterPackage
  let adapter ← name? platform.adapterType
  let main ← (Reference.segments metadata.main).mapM name?
  return program type (phrase "::" ++ [package] ++ phrase "::" ++ [adapter])
    (main.flatMap fun segment => phrase "::" ++ [segment]) (data metadata platform)

def header : String :=
  "// @generated by chameleon-codegen. Do not edit.\n"

/-- The file that holds the entry point, inside its platform's folder. -/
def fileName : String :=
  "bootstrap.rs"

def source? (metadata : Metadata) (platform : Platform) : Option String :=
  (tokens? metadata platform).map fun tokens => header ++ Token.spellAll tokens ++ "\n"

end PluginBridge.EntryPoint
