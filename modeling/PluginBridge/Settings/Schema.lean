import PluginBridge.Log.Record
import PluginBridge.Value.Decode

/-! The settings the framework itself understands. Plugins keep theirs beside
them, in tables of their own. -/
namespace PluginBridge.Settings
open Decode

/-- How a log line is laid out. -/
inductive Layout where
  | compact
  | full
  | pretty
deriving DecidableEq, Repr

namespace Layout

def name : Layout → String
  | .compact => "compact"
  | .full => "full"
  | .pretty => "pretty"

def ofName? (name : String) : Option Layout :=
  [compact, full, pretty].find? fun layout => layout.name == name

end Layout

/-- Where log lines go. -/
inductive Destination where
  | stdout
  | stderr
  | file
deriving DecidableEq, Repr

namespace Destination

def name : Destination → String
  | .stdout => "stdout"
  | .stderr => "stderr"
  | .file => "file"

def ofName? (name : String) : Option Destination :=
  [stdout, stderr, file].find? fun destination => destination.name == name

end Destination

structure Logging where
  /-- Whether a log is set up at all. -/
  enabled : Bool
  level : Log.Level
  layout : Layout
  destination : Destination
  filePath : Option String
  /-- Levels for single modules. -/
  filters : List (String × Log.Level)
  threadIds : Bool
  /-- Whether lines name the place of the log call. -/
  fileLocation : Bool
deriving DecidableEq, Repr

structure Framework where
  /-- Whether every dispatched event is logged. -/
  logEvents : Bool
  consoleName : String
deriving DecidableEq, Repr

structure Schema where
  logging : Logging
  framework : Framework
deriving DecidableEq, Repr

def Logging.default : Logging :=
  ⟨true, .info, .compact, .stdout, none, [], false, false⟩

def Framework.default : Framework :=
  ⟨false, "CONSOLE"⟩

def Schema.default : Schema :=
  ⟨.default, .default⟩

def decodeLevel (source : Source) : Value → Outcome Log.Level :=
  choice source Log.Level.ofName?

def decodeLayout (source : Source) : Value → Outcome Layout :=
  choice source Layout.ofName?

def decodeDestination (source : Source) : Value → Outcome Destination :=
  choice source Destination.ofName?

def decodeLogging (source : Source) (value : Value) : Outcome Logging := do
  let level := decodeLevel source
  let layout := decodeLayout source
  let destination := decodeDestination source
  let given ← record source
    [.of "enabled" flag, .of "level" level, .of "format" layout, .of "output" destination,
      .of "file_path" (optional text), .of "filters" (table level), .of "thread_ids" flag,
      .of "file_location" flag] true value
  let absent := Logging.default
  return {
    enabled := ← given.withDefault "enabled" flag absent.enabled
    level := ← given.withDefault "level" level absent.level
    layout := ← given.withDefault "format" layout absent.layout
    destination := ← given.withDefault "output" destination absent.destination
    filePath := ← given.withDefault "file_path" (optional text) absent.filePath
    filters := ← given.withDefault "filters" (table level) absent.filters
    threadIds := ← given.withDefault "thread_ids" flag absent.threadIds
    fileLocation := ← given.withDefault "file_location" flag absent.fileLocation
  }

def decodeFramework (source : Source) (value : Value) : Outcome Framework := do
  let given ← record source [.of "log_events" flag, .of "console_name" text] true value
  let absent := Framework.default
  return {
    logEvents := ← given.withDefault "log_events" flag absent.logEvents
    consoleName := ← given.withDefault "console_name" text absent.consoleName
  }

def decodeSchema (source : Source) (value : Value) : Outcome Schema := do
  let given ← record source
    [.of "logging" (decodeLogging source), .of "framework" (decodeFramework source)] true value
  return {
    logging := ← given.withDefault "logging" (decodeLogging source) .default
    framework := ← given.withDefault "framework" (decodeFramework source) .default
  }

def Logging.value (logging : Logging) : Value :=
  .table [("enabled", .flag logging.enabled),
    ("file_location", .flag logging.fileLocation),
    ("file_path", .optionalText logging.filePath),
    ("filters", .table (logging.filters.map fun (name, level) => (name, .text level.name))),
    ("format", .text logging.layout.name),
    ("level", .text logging.level.name),
    ("output", .text logging.destination.name),
    ("thread_ids", .flag logging.threadIds)]

def Framework.value (framework : Framework) : Value :=
  .table [("console_name", .text framework.consoleName), ("log_events", .flag framework.logEvents)]

/-- The settings as a layer, with the keys sorted. -/
def Schema.value (schema : Schema) : Value :=
  .table [("framework", schema.framework.value), ("logging", schema.logging.value)]

end PluginBridge.Settings
