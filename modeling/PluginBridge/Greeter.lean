import PluginBridge.EntryPoint.Source
import PluginBridge.Script
import PluginBridge.Text.Character
import PluginBridge.Text.LetterCase

/-! A sample plugin. It greets players who connect with the greeting of its
settings, and turns what they say into capitals. -/
namespace PluginBridge.Greeter
open Settings Decode

def metadata : Manifest.Metadata where
  id := "greeter"
  name := "Greeter"
  version := "0.1.0"
  authors := ["Hypera Development"]
  url := none
  description := some "Greets players and shouts their chat"
  main := "core::Greeter"
  dependencies := [⟨"LuckPerms", true, []⟩]
  platforms := [.memory]

/-- What its entry point loads it with. -/
def data : Plugin.Data :=
  EntryPoint.data metadata .memory

/-- The greeting without settings. -/
def standardGreeting : String := "Welcome!"

def decodeGreeting (value : Value) : Outcome String := do
  (← record .settings [.of "greeting" text] true value).required "greeting" text

/-- The greeting of a plugin's settings, which must not be blank. -/
def greeting (core : Plugin.Core) : Except String String :=
  match core.settings.pluginSection? core.data.id decodeGreeting with
  | .error mismatch => .error (Settings.Failure.mismatch [mismatch]).message
  | .ok chosen =>
    let greeting := chosen.getD standardGreeting
    if Text.isBlankText greeting then .error "greeting must not be empty" else .ok greeting

variable {Memory : Type}

/-- Greets the user of an event. -/
def welcome (greeting : String) : Program Memory .hear :=
  Script.program do
    match (← Script.observe).user? with
    | some user => Script.ask (.tell (.player user) greeting)
    | none => pure ()
    return .ok ()

/-- Turns a chat message into capitals, unless the message must stay. -/
def shout : Program Memory .hear :=
  Script.program do
    match ← Script.observe with
    | .chat details =>
      let _ ← Script.edit (.message (Text.LetterCase.toCapitals details.message))
      return .ok ()
    | _ => return .ok ()

def subscribe (core : Plugin.Core) (kind : EventKind) (listener : Program Memory .hear) :
    Script Memory (.hook .enable) Unit := do
  let code ← Script.define (Code.listener listener)
  let _ ← Script.ask (.subscribe core.adapter (some kind) core.data.id .standard code)

/-- The core with its greeting, which its settings always answer alike. A plugin
without one fails. -/
def greetingOf {moment : Plugin.Hook} (core : Plugin.CoreId) :
    Script Memory (.hook moment) (Option (Plugin.Core × String)) := do
  match (← Script.look).cores[core]? with
  | none => return none
  | some known =>
    match greeting known with
    | .error message => Script.finish (.error message)
    | .ok greeting => return some (known, greeting)

/-- A greeting that does not do keeps the plugin from being constructed. -/
def create (core : Plugin.CoreId) : Program Memory (.hook .create) :=
  Script.program do
    let _ ← greetingOf core
    return .ok ()

def enable (core : Plugin.CoreId) : Program Memory (.hook .enable) :=
  Script.program do
    if let some (known, greeting) ← greetingOf core then
      subscribe known .connect (welcome greeting)
      subscribe known .chat shout
      Script.ask (.log (.info "Greeter enabled" [("greeting", .text greeting)]))
    return .ok ()

/-- The plugin's hooks. -/
def code : Code Memory :=
  Code.plugin fun
    | .create, core => create core
    | .enable, core => enable core
    | .disable, _ => .finish (.ok ())

end PluginBridge.Greeter
