import PluginBridge.State

/-! What an adapter registers: its listeners and commands at the host, and the
listeners of plugins on its bus. An adapter removes its listeners by their
numbers and its commands by their names. -/
namespace PluginBridge.State

/-- Why nothing can be registered for an adapter that does not exist. -/
def absent : AdapterFailure := .unavailable "adapter"

/-- Registers the listeners of an adapter with the host, unless they are. -/
def attach (state : State) (id : AdapterId) : State × Except AdapterFailure Unit :=
  if !state.hasAdapter id then (state, .error absent)
  else if (state.adapter id).isAttached then (state, .ok ())
  else
    match state.host.addListeners Adapter.owner (.adapter id) (Adapter.kinds state.host.kind) with
    | .error (kind, refusal) => (state, .error (.listenerRefused kind refusal))
    | .ok (host, listeners) =>
      (({ state with host }.updateAdapter id fun adapter => { adapter with listeners }).log
        (.debug "Registered native listeners"
          [("host", .text host.name), ("listeners", .whole listeners.length)]), .ok ())

/-- Removes the listeners of an adapter from the host. -/
def detach (state : State) (id : AdapterId) : State :=
  let adapter := state.adapter id
  if !adapter.isAttached then state
  else
    ((state.updateHost (·.removeListeners adapter.listeners)).updateAdapter id
      fun adapter => { adapter with listeners := [] }).log
        (.debug "Unregistered native listeners"
          [("host", .text state.host.name), ("listeners", .whole adapter.listeners.length)])

/-- What an adapter offers to the host for a plugin's command. -/
def offer (id : AdapterId) (command : Command) : Host.Offer :=
  ⟨Adapter.owner, command.name, command.aliases, .adapter id command⟩

def registrationRecord (command : Command) : Log.Record :=
  .debug "Registered command"
    [("command", .text command.name), ("aliases", .text (Text.quotedList command.aliases))]

/-- Registers a plugin's command with the host. -/
def register (state : State) (id : AdapterId) (command : Command) :
    State × Except AdapterFailure Unit :=
  if !state.hasAdapter id then (state, .error absent)
  else
    match state.host.addCommand (offer id command) with
    | .error refusal => (state, .error (.commandRefused command.name refusal))
    | .ok (host, _) =>
      let registered := { state with host }.updateAdapter id fun adapter =>
        { adapter with commands := adapter.commands ++ [command.name] }
      (registered.log (registrationRecord command), .ok ())

/-- Removes the first command of a name that the adapter has registered, and
tells whether the host still had it. -/
def unregister (state : State) (id : AdapterId) (name : String) : State × Bool :=
  let commands := (state.adapter id).commands
  match commands.find? (Text.sameLabel · name) with
  | none => (state, false)
  | some known =>
    let (host, found) := state.host.removeCommand known
    let commands := commands.erase known
    ({ state with host }.updateAdapter id fun adapter => { adapter with commands }, found)

/-- Removes commands one by one, and tells how many the host still had. -/
def unregisterEach (id : AdapterId) : List String → State → State × Nat
  | [], state => (state, 0)
  | name :: rest, state =>
    let (state, found) := state.unregister id name
    let (state, count) := unregisterEach id rest state
    (state, count + if found then 1 else 0)

/-- Removes all commands of an adapter. -/
def unregisterAll (state : State) (id : AdapterId) : State × Nat :=
  unregisterEach id (state.adapter id).commands state

def subscribe (state : State) (id : AdapterId) (kind : Option EventKind) (owner : String)
    (priority : Priority) (code : CodeId) : State × SubscriptionId :=
  let (bus, subscription) := (state.bus id).subscribe kind owner priority code
  (state.updateAdapter id fun adapter => { adapter with bus }, subscription)

def unsubscribe (state : State) (id : AdapterId) (subscription : SubscriptionId) : State × Bool :=
  let (bus, found) := (state.bus id).unsubscribe subscription
  (state.updateAdapter id fun adapter => { adapter with bus }, found)

def unsubscribeOwner (state : State) (id : AdapterId) (owner : String) : State × Nat :=
  let (bus, count) := (state.bus id).unsubscribeOwner owner
  ((state.updateAdapter id fun adapter => { adapter with bus }).log
    (.debug "Unregistered listeners" [("owner", .text owner), ("removed", .whole count)]), count)

end PluginBridge.State
