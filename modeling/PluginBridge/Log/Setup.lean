import PluginBridge.Log.Directive
import PluginBridge.Settings.Schema

/-! Setting up a log. Directives that cannot be read are passed over with a
warning, and so is a file destination without a path. -/
namespace PluginBridge.Log
open Settings

structure Setup where
  level : Level
  directives : List String
  layout : Layout
  destination : Destination
  filePath : Option String
  threadIds : Bool
  file : Bool
  lineNumber : Bool
deriving DecidableEq, Repr

namespace Setup

def standard : Setup :=
  ⟨.info, [], .compact, .stdout, none, false, false, false⟩

def ofLogging (logging : Logging) : Setup where
  level := logging.level
  directives := logging.filters.map fun (module, level) => module ++ "=" ++ level.name
  layout := logging.layout
  destination := logging.destination
  filePath := logging.filePath
  threadIds := logging.threadIds
  file := logging.fileLocation
  lineNumber := logging.fileLocation

/-- What setting up warns about. -/
def warnings (setup : Setup) : List Record :=
  ((setup.directives.filter fun directive => !Directive.isValid directive).map fun directive =>
    .warn "Ignoring invalid log directive" [("directive", .text directive)]) ++
  if setup.destination = .file && setup.filePath.isNone then
    [.warn "File output requested but no file path configured, logging to stdout" []]
  else []

end Setup

/-- The warnings of a plugin's log, which is not set up when it is turned off. -/
def setupWarnings (logging : Logging) : List Record :=
  if logging.enabled then (Setup.ofLogging logging).warnings else []

end PluginBridge.Log
