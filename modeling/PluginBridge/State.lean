import PluginBridge.Adapter.Unified
import PluginBridge.Plugin.Core

/-! Everything that programs can see: the host, the adapters, the plugin cores
and their entry points, the log, and the history of what has happened, which is
what laws about order speak of. -/
namespace PluginBridge
open Plugin

/-- The roles in which code is called. -/
inductive Role where
  /-- A listener on a bus. -/
  | hear
  /-- A listener of the host. -/
  | hearHost
  /-- A handler of a command or a sub-command. -/
  | handle
  /-- A completer of a command or a sub-command. -/
  | complete
  /-- A command registered with the host directly. -/
  | execute
  /-- The completion of such a command. -/
  | suggest
  | hook (moment : Hook)
  /-- Code that nobody called. -/
  | main
deriving DecidableEq, Repr

/-- A command line without its label. -/
structure Line where
  sender : Host.Sender
  text : String
deriving DecidableEq, Repr

namespace Role

/-- What code is given. -/
@[reducible] def Input : Role → Type
  | handle | complete => Invocation
  | execute | suggest => Line
  | hook _ => CoreId
  | _ => Unit

/-- What code works on in place. -/
@[reducible] def Subject : Role → Type
  | hear => Event
  | hearHost => HostEvent
  | _ => Unit

/-- How code can change its subject. -/
@[reducible] def Change : Role → Type
  | hear => Edit
  | hearHost => HostEdit
  | _ => Empty

/-- What code answers. -/
@[reducible] def Result : Role → Type
  | hear | handle | hook _ => Except String Unit
  | complete | suggest => List String
  | execute => Bool
  | _ => Unit

def apply : (role : Role) → role.Change → role.Subject → Except EditFailure role.Subject
  | hear, change, event => event.apply change
  | hearHost, change, event => .ok (event.apply change)

end Role

inductive Happening where
  /-- The host has begun to fire an event. -/
  | fired (event : HostEvent)
  /-- An adapter has begun to dispatch an event on its bus. -/
  | dispatched (adapter : AdapterId) (event : Event)
  | called (code : CodeId) (role : Role) (input : role.Input)

structure State where
  host : Host
  adapters : List Adapter
  cores : List Core
  entries : List Entry
  /-- What has been logged, oldest first. -/
  logs : List Log.Record
  /-- What has happened, oldest first. -/
  history : List Happening
  surroundings : Surroundings

namespace State

def initial (kind : Host.Kind) (surroundings : Surroundings) : State :=
  ⟨.empty kind, [], [], [], [], [], surroundings⟩

def updateHost (state : State) (change : Host → Host) : State :=
  { state with host := change state.host }

def log (state : State) (record : Log.Record) : State :=
  { state with logs := state.logs ++ [record] }

def logAll (state : State) (records : List Log.Record) : State :=
  { state with logs := state.logs ++ records }

def note (state : State) (happening : Happening) : State :=
  { state with history := state.history ++ [happening] }

/-- Stands for an adapter that does not exist. -/
def noAdapter : Adapter := .detached "" "" false

def adapter (state : State) (id : AdapterId) : Adapter :=
  (state.adapters[id]?).getD noAdapter

def hasAdapter (state : State) (id : AdapterId) : Bool :=
  id < state.adapters.length

def updateAdapter (state : State) (id : AdapterId) (change : Adapter → Adapter) : State :=
  { state with adapters := state.adapters.modify id change }

def addAdapter (state : State) (adapter : Adapter) : State × AdapterId :=
  ({ state with adapters := state.adapters ++ [adapter] }, state.adapters.length)

def bus (state : State) (id : AdapterId) : EventBus := (state.adapter id).bus

def addCore (state : State) (core : Core) : State × CoreId :=
  ({ state with cores := state.cores ++ [core] }, state.cores.length)

def updateCore (state : State) (id : CoreId) (change : Core → Core) : State :=
  { state with cores := state.cores.modify id change }

def addEntry (state : State) (entry : Entry) : State × EntryId :=
  ({ state with entries := state.entries ++ [entry] }, state.entries.length)

def updateEntry (state : State) (id : EntryId) (change : Entry → Entry) : State :=
  { state with entries := state.entries.modify id change }

def userName (state : State) (user : ChatUser) : String := state.host.userName user

end State
end PluginBridge
