import PluginBridge.State

/-! Programs: what listeners, handlers, completers and hooks do when they are
called. A program asks the world for one thing after another and goes on with
the answers; it can edit what it was called about, keep things in the memory
that all programs share, and define more code. It either finishes or panics. -/
namespace PluginBridge
open Host (PlayerId ServerId Address Sender ListenerId)
open Plugin

/-- What a panic carries: a text, or something that cannot be shown. -/
inductive Payload where
  | text (message : String)
  | other
deriving DecidableEq, Repr

def Payload.message : Payload → String
  | .text message => message
  | .other => "<non-string panic payload>"

/-- What is loaded, on which terms. -/
structure LoadOrder where
  data : Data
  code : CodeId
  /-- Where the platform keeps the plugin's files. -/
  dataFolder : Option String
  /-- How settings are loaded; the standard way unless given. -/
  loader : Option Settings.Loader
  /-- The part that the platform cannot provide, if there is one. -/
  missingPart : Option String
deriving Repr

/-- What a program can ask of the world. -/
inductive Request where
  | look
  | log (record : Log.Record)
  | join (name : String)
  | chat (player : PlayerId) (message : String)
  | quit (player : PlayerId)
  | disconnect (player : PlayerId) (reason : String)
  | kick (player : PlayerId) (reason : String)
  /-- Closes a player's connection without telling the host. -/
  | drop (player : PlayerId) (reason : String)
  | switch (player : PlayerId) (server : ServerId)
  /-- Sends a player to the server of that server's name. -/
  | connect (player : PlayerId) (server : ServerId)
  | setPermission (player : PlayerId) (node : String) (held : Bool)
  | tell (user : ChatUser) (message : String)
  | addServer (name : String) (address : Address)
  | sendData (server : ServerId) (channel : String) (data : ByteArray)
  | shutdown
  | listen (owner : String) (kind : HostEventKind) (code : CodeId)
  | unlisten (listener : ListenerId)
  | unlistenOwner (owner : String)
  | fire (event : HostEvent)
  /-- Registers code as a command of the host, without an adapter. -/
  | offer (owner name : String) (aliases : List String) (code : CodeId)
  | withdraw (name : String)
  | runLine (sender : Sender) (line : String)
  | suggestLine (sender : Sender) (line : String)
  | newAdapter (platform consoleName : String) (logEvents : Bool)
  | attach (adapter : AdapterId)
  | detach (adapter : AdapterId)
  /-- Passes on the unified form of a host's event, or why it has none. -/
  | bridge (adapter : AdapterId) (source : String) (unified : Except UnifyFailure Event)
  | subscribe (adapter : AdapterId) (kind : Option EventKind) (owner : String) (priority : Priority)
      (code : CodeId)
  | unsubscribe (adapter : AdapterId) (subscription : SubscriptionId)
  | unsubscribeOwner (adapter : AdapterId) (owner : String)
  | dispatch (adapter : AdapterId) (event : Event)
  /-- Hands an event to code, past every bus. -/
  | present (code : CodeId) (event : Event)
  /-- Disconnects the player that a connect event refuses. -/
  | obey (event : Event)
  | runSubCommand (command : Command) (invocation : Invocation) (label : String)
  | runBase (command : Command) (invocation : Invocation)
  | completeArguments (command : Command) (invocation : Invocation)
  | invoke (command : Command) (user : ChatUser) (text : String)
  | complete (command : Command) (user : ChatUser) (text : String)
  | register (adapter : AdapterId) (command : Command)
  | unregister (adapter : AdapterId) (name : String)
  | unregisterAll (adapter : AdapterId)
  | load (order : LoadOrder)
  | enable (core : CoreId)
  | disable (core : CoreId)
  | newEntry (data : Data) (code : CodeId) (dataFolder : Option String)
  | enableEntry (entry : EntryId)
  | disableEntry (entry : EntryId)

/-- What the world answers. -/
@[reducible] def Request.Reply : Request → Type
  | look => State
  | join _ => PlayerId
  | chat .. => Option String
  | addServer .. => ServerId
  | listen .. => Except Host.Refusal ListenerId
  | unlisten _ | withdraw _ | unsubscribe .. | unregister .. => Bool
  | unlistenOwner _ | unsubscribeOwner .. | unregisterAll _ => Nat
  | fire _ => HostEvent
  | offer .. => Except Host.Refusal Unit
  | runLine .. => Option Bool
  | suggestLine .. | completeArguments .. | complete .. => List String
  | newAdapter .. => AdapterId
  | attach _ | register .. => Except AdapterFailure Unit
  | bridge .. => Option Event
  | subscribe .. => SubscriptionId
  | dispatch .. => Event
  | present .. => Except String Unit × Event
  | obey _ => Bool
  | runSubCommand .. => Bool
  | load _ => Except LoadFailure CoreId
  | enable _ | disable _ => Option (Except LifecycleFailure Unit)
  | newEntry .. => EntryId
  | _ => Unit

inductive Program (Memory : Type) : Role → Type where
  | finish {role : Role} (result : role.Result) : Program Memory role
  | panic {role : Role} (payload : Payload) : Program Memory role
  | recollect {role : Role} (next : Memory → Program Memory role) : Program Memory role
  | remember {role : Role} (change : Memory → Memory) (next : Program Memory role) :
      Program Memory role
  /-- Looks at what the code was called about. -/
  | observe {role : Role} (next : role.Subject → Program Memory role) : Program Memory role
  | edit {role : Role} (change : role.Change)
      (next : Except EditFailure Unit → Program Memory role) : Program Memory role
  | define {role : Role} (code : (task : Role) → task.Input → Program Memory task)
      (next : CodeId → Program Memory role) : Program Memory role
  | ask {role : Role} (request : Request) (next : request.Reply → Program Memory role) :
      Program Memory role

/-- Code is a program for each role that it may be called in. -/
abbrev Code (Memory : Type) := (role : Role) → role.Input → Program Memory role

end PluginBridge
