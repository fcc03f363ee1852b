import PluginBridge.Settings.Environment
import PluginBridge.Settings.File
import PluginBridge.Settings.Schema
import PluginBridge.Surroundings

/-! Loading settings in layers: what is built in, a file, the environment, and
what the program sets itself. Each layer overrides those before it. -/
namespace PluginBridge.Settings
open Decode

/-- A setting made by the program. -/
inductive Override where
  | key (path : String) (value : Value)
  | schema (schema : Schema)
deriving Repr

structure Loader where
  overrides : List Override
  searchPaths : List String
  /-- The one file to load instead of searching. -/
  file : Option String
  /-- How the names of environment variables begin, if they are read. -/
  variableStem : Option String
deriving Repr

namespace Loader

def standard : Loader := ⟨[], [], none, some "CHAMELEON_"⟩

def addSearchPath (loader : Loader) (path : String) : Loader :=
  { loader with searchPaths := loader.searchPaths ++ [path] }

def useFile (loader : Loader) (path : String) : Loader :=
  { loader with file := some path }

def readVariables (loader : Loader) (stem : String) : Loader :=
  { loader with variableStem := some stem }

def ignoreVariables (loader : Loader) : Loader :=
  { loader with variableStem := none }

def override (loader : Loader) (setting : Override) : Loader :=
  { loader with overrides := loader.overrides ++ [setting] }

end Loader

/-- Why settings cannot be loaded. -/
inductive Failure where
  | fileNotFound (path : String)
  | unsupportedFormat (extension : String)
  /-- Values that do not fit, or layers that cannot be read. -/
  | mismatch (causes : List Mismatch)
deriving DecidableEq, Repr

def Failure.message : Failure → String
  | .fileNotFound path => "Configuration file not found: " ++ path
  | .unsupportedFormat extension => "Unsupported configuration file format: ." ++ extension
  | .mismatch _ => "Failed to extract configuration"

/-- Layers united so far, or what is wrong with those that are not. -/
abbrev Layers := Except (List Mismatch) Table

/-- Lays a layer over others. Of several faults the first stays first, and the
newest one follows it. -/
def Layers.add (lower upper : Layers) : Layers :=
  match lower, upper with
  | .ok below, .ok above => .ok (overlayEntries above below)
  | .ok _, .error causes => .error causes
  | .error causes, .ok _ => .error causes
  | .error (first :: _), .error causes => .error (first :: causes)
  | .error [], .error causes => .error causes

/-- The layer of a value, which has to be a table. -/
def layerOf : Value → Layers
  | .table entries => .ok (sorted entries)
  | _ => .error [⟨.invalidType, []⟩]

def Override.layer : Override → Layers
  | .key path value => layerOf (nest path value)
  | .schema values => layerOf values.value

def overrideLayer (overrides : List Override) : Layers :=
  overrides.foldl (fun layers setting => layers.add setting.layer) (.ok [])

/-- The layer of a file. A folder of that name gives an empty layer. -/
def fileLayer (surroundings : Surroundings) (path : String) : Layers :=
  match surroundings.read? path with
  | none => .ok []
  | some bytes =>
    match File.layer? bytes with
    | none => .error [⟨.message, []⟩]
    | some entries => .ok entries

/-- The name of the settings file in each search path. -/
def fileName : String := "chameleon.toml"

/-- The current folder, and the framework's folder among the user's settings. -/
def standardPaths (surroundings : Surroundings) : List String :=
  [surroundings.workingFolder, Files.join surroundings.settingsFolder "chameleon"]

def Loader.paths (loader : Loader) (surroundings : Surroundings) : List String :=
  if loader.searchPaths.isEmpty then standardPaths surroundings else loader.searchPaths

/-- The first settings file along the search paths. -/
def findFile? (surroundings : Surroundings) : List String → Option String
  | [] => none
  | folder :: rest =>
    let path := Files.join folder fileName
    if surroundings.holds path then some path else findFile? surroundings rest

def loadingRecord (path : String) : Log.Record :=
  .info "Loading configuration file" [("path", .text path)]

/-- The file layer, with what is logged about it. -/
def Loader.fileLayer (loader : Loader) (surroundings : Surroundings) :
    List Log.Record × Except Failure Layers :=
  match loader.file with
  | some path =>
    if !surroundings.holds path then ([], .error (.fileNotFound path))
    else
      let extension := (Files.extension? path).getD ""
      ([loadingRecord path],
        if extension = "toml" then .ok (Settings.fileLayer surroundings path)
        else .error (.unsupportedFormat extension))
  | none =>
    match findFile? surroundings (loader.paths surroundings) with
    | some path => ([loadingRecord path], .ok (Settings.fileLayer surroundings path))
    | none => ([.warn "No configuration file found, using defaults" []], .ok (.ok []))

/-- Settings that have been loaded: what the framework understands, and all
that the layers hold. -/
structure Loaded where
  schema : Schema
  all : Table

def Loaded.default : Loaded :=
  ⟨.default, entriesOf Schema.default.value⟩

/-- All layers united. -/
def Loader.layers (loader : Loader) (surroundings : Surroundings) (file : Layers) : Layers :=
  let builtIn : Layers := layerOf Schema.default.value
  let environment : Layers := .ok <| loader.variableStem.elim [] fun stem =>
    Environment.layer stem surroundings.environment
  ((builtIn.add file).add environment).add (overrideLayer loader.overrides)

/-- What the framework understands of the layers. -/
def Loaded.ofLayers : Layers → Except Failure Loaded
  | .error causes => .error (.mismatch causes)
  | .ok all =>
    match decodeSchema .settings (.table all) with
    | .error mismatch => .error (.mismatch [mismatch])
    | .ok schema => .ok ⟨schema, all⟩

def Loader.load (loader : Loader) (surroundings : Surroundings) :
    List Log.Record × Except Failure Loaded :=
  let (records, file) := loader.fileLayer surroundings
  match file with
  | .error failure => (records, .error failure)
  | .ok file =>
    match Loaded.ofLayers (loader.layers surroundings file) with
    | .error failure => (records, .error failure)
    | .ok loaded => (records ++ [.debug "Configuration loaded successfully"
        [("logging_level", .text loaded.schema.logging.level.name),
          ("log_events", .flag loaded.schema.framework.logEvents)]], .ok loaded)

/-- The value under a dotted key, as a reader expects it. -/
def Loaded.section? {α : Type} (loaded : Loaded) (key : String) (decode : Value → Outcome α) :
    Outcome (Option α) :=
  match find? key loaded.all with
  | none => .ok none
  | some value => (decode value).map some

/-- The settings of a plugin. -/
def Loaded.pluginSection? {α : Type} (loaded : Loaded) (id : String)
    (decode : Value → Outcome α) : Outcome (Option α) :=
  loaded.section? ("plugins." ++ id) decode

end PluginBridge.Settings
