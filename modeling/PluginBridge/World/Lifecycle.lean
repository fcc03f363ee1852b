import PluginBridge.Log.Setup
import PluginBridge.Manifest.Platform
import PluginBridge.World.Delivery

/-! The life of a plugin: it is constructed when it is loaded, enabled once and
disabled once. Disabling takes away everything the plugin has registered,
whatever its hook does. -/
namespace PluginBridge.Action
open Plugin
variable {Memory : Type} (call : Caller Memory)

/-- The platform that plugins are loaded on. -/
def platformName : String := Manifest.Platform.memory.id

/-- Where settings are looked for unless a loader is given: the plugin's folder,
the current folder and the folder of the user's settings. -/
def standardLoader (surroundings : Surroundings) (dataFolder : Option String) : Settings.Loader :=
  (dataFolder.toList ++ Settings.standardPaths surroundings).foldl .addSearchPath .standard

/-- A hook that returned its own error or panicked. -/
def hookFault : Except Payload (Except String Unit) → Option String
  | .ok (.ok ()) => none
  | .ok (.error message) => some message
  | .error payload => some ("panicked: " ++ payload.message)

/-- Constructs a plugin whose settings have been loaded. -/
def construct (order : LoadOrder) (settings : Settings.Loaded) :
    Action Memory (Except LoadFailure CoreId) := do
  let framework := settings.schema.framework
  let adapter ← answer (·.addAdapter
    (.detached platformName framework.consoleName framework.logEvents))
  let core ← answer (·.addCore ⟨order.data, adapter, settings, order.code, none, false⟩)
  match (← attempt call order.code (.hook .create) core ()).1 with
  | .ok (.ok ()) =>
    log (.info "Plugin loaded" [("version", .text order.data.version)])
    update (·.updateCore core fun known => { known with stage := some .loaded })
    return .ok core
  | .ok (.error message) =>
    log (.error "Plugin construction failed" [("error", .text message)])
    return .error (.construction order.data.id message)
  | .error payload =>
    log (.error "Plugin construction panicked" [("panic", .text payload.message)])
    return .error (.panicked order.data.id payload.message)

/-- Loads a plugin: its settings first, then what the platform provides, then the
plugin itself. -/
def load (order : LoadOrder) : Action Memory (Except LoadFailure CoreId) := do
  let data := { order.data with dataFolder := order.data.dataFolder <|> order.dataFolder }
  let surroundings ← see (·.surroundings)
  let loader := order.loader.getD (standardLoader surroundings data.dataFolder)
  let (records, settings) := loader.load surroundings
  update (·.logAll records)
  match settings with
  | .error failure => return .error (.settings failure)
  | .ok settings =>
    update (·.logAll (Log.setupWarnings settings.schema.logging))
    match order.missingPart with
    | some part => return .error (.platform platformName (.unavailable part))
    | none => construct call { order with data } settings

/-- Runs a hook of a plugin that has been constructed. -/
def runHook (core : CoreId) (known : Core) (moment : Hook) :
    Action Memory (Except Payload (Except String Unit)) := do
  update (·.updateCore core fun known => { known with busy := true })
  let (outcome, _) ← attempt call known.code (.hook moment) core ()
  update (·.updateCore core fun known => { known with busy := false })
  return outcome

/-- What a hook's outcome means for enabling or disabling. A fault is logged. -/
def hookResult (plugin : String) (moment : Hook) (outcome : Except Payload (Except String Unit)) :
    Action Memory (Except LifecycleFailure Unit) := do
  match hookFault outcome with
  | none => return .ok ()
  | some reason =>
    log (.error "Plugin lifecycle hook failed"
      [("operation", .text moment.name), ("error", .text reason)])
    return .error (.hook plugin moment reason)

/-- Enables a plugin. It counts as enabled from the moment the host passes
events on to it, even if its hook fails. -/
def enableCore (core : CoreId) (known : Core) : Action Memory (Except LifecycleFailure Unit) := do
  match ← answer (·.attach known.adapter) with
  | .error failure =>
    log (.error "Failed to register platform listeners" [("error", .text failure.message)])
    update (·.detach known.adapter)
    return .error (.platform failure)
  | .ok () =>
    update (·.updateCore core fun known => { known with stage := some .enabled })
    let result ← hookResult known.data.id .enable (← runHook call core known .enable)
    if result.toBool then log (.info "Plugin enabled" [])
    return result

/-- Disables a plugin and removes what it has registered. -/
def disableCore (core : CoreId) (known : Core) : Action Memory (Except LifecycleFailure Unit) := do
  let outcome ← runHook call core known .disable
  update (·.detach known.adapter)
  let listeners ← answer (·.unsubscribeOwner known.adapter known.data.id)
  let commands ← answer (·.unregisterAll known.adapter)
  update (·.updateCore core fun known => { known with stage := some .disabled })
  log (.debug "Removed plugin registrations"
    [("listeners", .whole listeners), ("commands", .whole commands)])
  let result ← hookResult known.data.id .disable outcome
  log (.info "Plugin disabled" [])
  return result

/-- The core of that number with its stage, if it is there to be worked with: a
core is out of reach until it is constructed and while one of its hooks runs. -/
def reachable? (state : State) (core : CoreId) : Option (Core × Stage) := do
  let known ← state.cores[core]?
  if known.busy then none else return (known, ← known.stage)

/-- Enables a core that has been loaded and not enabled before. -/
def enable (core : CoreId) : Action Memory (Option (Except LifecycleFailure Unit)) := do
  match ← see (reachable? · core) with
  | none => return none
  | some (known, .loaded) => return some (← enableCore call core known)
  | some (_, stage) => return some (.error (.wrongStage .enable stage))

/-- Disables a core that is enabled. -/
def disable (core : CoreId) : Action Memory (Option (Except LifecycleFailure Unit)) := do
  match ← see (reachable? · core) with
  | none => return none
  | some (known, .enabled) => return some (← disableCore call core known)
  | some (_, stage) => return some (.error (.wrongStage .disable stage))

/-- What an entry point logs when it cannot pass a request of the host on. -/
def entryRecord (activity message : String) : Log.Record :=
  .error ("An error occurred while " ++ activity ++ " Chameleon") [("error", .text message)]

/-- Logs why a core could not be enabled or disabled. -/
def report (activity : String) : Option (Except LifecycleFailure Unit) → Action Memory Unit
  | some (.error failure) => log (entryRecord activity failure.message)
  | _ => return ()

/-- Loads and enables the plugin behind an entry point. Only the first request
does anything. -/
def enableEntry (entry : EntryId) : Action Memory Unit := do
  match (← see (·.entries))[entry]? with
  | none => return ()
  | some known =>
    if known.used then return ()
    update (·.updateEntry entry fun known => { known with used := true })
    match ← load call ⟨known.data, known.code, known.dataFolder, none, none⟩ with
    | .error failure => log (entryRecord "loading" failure.message)
    | .ok core =>
      update (·.updateEntry entry fun known => { known with core := some core })
      report "enabling" (← enable call core)

/-- Disables the plugin behind an entry point, if it was loaded. -/
def disableEntry (entry : EntryId) : Action Memory Unit := do
  match ((← see (·.entries))[entry]?).bind (·.core) with
  | none => return ()
  | some core => report "disabling" (← disable call core)

end PluginBridge.Action
