import PluginBridge.Host.Basic

/-! An adapter connects one plugin core to the host. It listens to the host's
events and passes them on to its bus, it wraps senders for plugins, and it
registers their commands with the host. All adapters register under one owner,
so each keeps the numbers of its listeners and the names of its commands. -/
namespace PluginBridge
open Host (ListenerId)

structure Adapter where
  /-- The platform that logs name. -/
  platform : String
  /-- Whether each event is logged once its listeners have run. -/
  logEvents : Bool
  consoleName : String
  bus : EventBus
  /-- Its listeners at the host; none while it is detached. -/
  listeners : List ListenerId
  /-- The names of its commands, in the order they were registered. -/
  commands : List String
deriving DecidableEq, Repr

namespace Adapter

/-- The owner that adapters register listeners and commands under. -/
def owner : String := "chameleon"

def detached (platform consoleName : String) (logEvents : Bool) : Adapter :=
  ⟨platform, logEvents, consoleName, .empty, [], []⟩

def isAttached (adapter : Adapter) : Bool := !adapter.listeners.isEmpty

/-- The kinds of events an adapter listens to. A kick is told apart on a server,
a switch on a proxy. -/
def kinds (host : Host.Kind) : List HostEventKind :=
  [.join, .chat, .quit, match host with | .server => .kick | .proxy => .switch]

def console (adapter : Adapter) : ChatUser := .console adapter.consoleName

/-- The sender as plugins see it. -/
def wrap (adapter : Adapter) : Host.Sender → ChatUser
  | .console => adapter.console
  | .player id => .player id

end Adapter

/-- Why an adapter cannot do what a plugin needs. -/
inductive AdapterFailure where
  | listenerRefused (kind : HostEventKind) (refusal : Host.Refusal)
  | commandRefused (name : String) (refusal : Host.Refusal)
  | unavailable (part : String)
deriving DecidableEq, Repr

def AdapterFailure.message : AdapterFailure → String
  | .listenerRefused kind refusal =>
    "failed to register native listener for '" ++ kind.name ++ "': " ++ refusal.message
  | .commandRefused name refusal =>
    "failed to register command '" ++ name ++ "': " ++ refusal.message
  | .unavailable part => "platform object '" ++ part ++ "' is unavailable"

end PluginBridge
