import PluginBridge.Value

/-! What is logged: a level, a message and named values. -/
namespace PluginBridge.Log

inductive Level where
  | trace
  | debug
  | info
  | warn
  | error
deriving DecidableEq, Repr

namespace Level

def all : List Level := [.trace, .debug, .info, .warn, .error]

def name : Level → String
  | .trace => "trace"
  | .debug => "debug"
  | .info => "info"
  | .warn => "warn"
  | .error => "error"

def capitals : Level → String
  | .trace => "TRACE"
  | .debug => "DEBUG"
  | .info => "INFO"
  | .warn => "WARN"
  | .error => "ERROR"

/-- The level with exactly this name. -/
def ofName? (name : String) : Option Level :=
  all.find? fun level => level.name == name

/-- How much a level matters. -/
def weight : Level → Nat
  | .trace => 0
  | .debug => 1
  | .info => 2
  | .warn => 3
  | .error => 4

end Level

structure Record where
  level : Level
  message : String
  fields : List (String × Value)
deriving Repr

namespace Record

def error (message : String) (fields : List (String × Value)) : Record :=
  ⟨.error, message, fields⟩

def warn (message : String) (fields : List (String × Value)) : Record :=
  ⟨.warn, message, fields⟩

def info (message : String) (fields : List (String × Value)) : Record :=
  ⟨.info, message, fields⟩

def debug (message : String) (fields : List (String × Value)) : Record :=
  ⟨.debug, message, fields⟩

end Record
end PluginBridge.Log
