import PluginBridge.World.Delivery

/-! What a host does with its players. It fires an event before it acts, and
obeys what the listeners have made of it. A player who is removed from the list
is announced to have quit, once. -/
namespace PluginBridge.Action
open Host (PlayerId ServerId Listener)
variable {Memory : Type} (call : Caller Memory)

/-- Passes an event on to an adapter's bus. A player whom plugins refuse is
turned away. -/
def pass (turnAway : PlayerId → String → Action Memory Unit) (adapter : AdapterId)
    (event : HostEvent) : Action Memory HostEvent := do
  match ← bridge call adapter event.kind.name (event.unified (← see (·.host.kind))) with
  | none => return event
  | some outcome =>
    match outcome.refusal? with
    | some (player, reason) => turnAway player reason
    | none => pure ()
    return event.reconciled outcome

/-- Hands an event to one listener of the host. -/
def hand (turnAway : PlayerId → String → Action Memory Unit) (listener : Listener)
    (event : HostEvent) : Action Memory HostEvent :=
  match listener.hearer with
  | .code id => do return (← demand call id .hearHost () event).2
  | .adapter id => pass call turnAway id event

def handAll (turnAway : PlayerId → String → Action Memory Unit) :
    List Listener → HostEvent → Action Memory HostEvent
  | [], event => return event
  | listener :: rest, event => do handAll turnAway rest (← hand call turnAway listener event)

/-- Fires an event at the listeners that are registered when it begins. -/
def fireWith (turnAway : PlayerId → String → Action Memory Unit) (event : HostEvent) :
    Action Memory HostEvent := do
  note (.fired event)
  handAll call turnAway (← see (·.host.registry.listenersOf event.kind)) event

/-- Announces that a player has quit, which turns nobody away. -/
def announceQuit (player : PlayerId) : Action Memory Unit := do
  let _ ← fireWith call (fun _ _ => pure ()) (.quit player)

/-- Takes a player off the list, if it is there, and announces it. -/
def remove (player : PlayerId) : Action Memory Unit := do
  if (← see (·.host.listed)).contains player then
    updateHost (·.removePlayer player)
    announceQuit call player

def drop (player : PlayerId) (reason : String) : Action Memory Unit :=
  updateHost (·.updatePlayer player (·.disconnect reason))

def disconnect (player : PlayerId) (reason : String) : Action Memory Unit := do
  drop player reason
  remove call player

def fire (event : HostEvent) : Action Memory HostEvent :=
  fireWith call (disconnect call) event

/-- The reason of players who leave by themselves. -/
def quitReason : String := "Quit"

def quit (player : PlayerId) : Action Memory Unit :=
  disconnect call player quitReason

/-- Lets a player join, who may be disconnected on the way. -/
def join (name : String) : Action Memory PlayerId := do
  let player ← answerHost (·.addPlayer name)
  log (.debug "Player joined" [("player", .text name)])
  let _ ← fire call (.join player)
  if !(← see (·.host.isConnected player)) then
    remove call player
  return player

/-- What everyone reads when a player says something. -/
def chatLine (name message : String) : String := "<" ++ name ++ "> " ++ message

/-- Lets a player speak, and tells what was said unless it was held back. -/
def chat (player : PlayerId) (message : String) : Action Memory (Option String) := do
  match ← fire call (.chat player message false) with
  | .chat _ said false =>
    updateHost fun host => host.broadcast (chatLine (host.playerName player) said)
    return some said
  | _ => return none

def kick (player : PlayerId) (reason : String) : Action Memory Unit := do
  let _ ← fire call (.kick player reason)
  disconnect call player reason

/-- Sends a player to a server. -/
def switch (player : PlayerId) (server : ServerId) : Action Memory Unit := do
  let previous ← see (·.host.serverOf player)
  updateHost (·.updatePlayer player fun known => { known with server := some server })
  let _ ← fire call (.switch player previous server)

/-- Sends a player to the first server that has a server's name. -/
def connect (player : PlayerId) (server : ServerId) : Action Memory Unit := do
  let host ← see (·.host)
  match host.serverNamed? (host.serverName server) with
  | some target => switch call player target
  | none =>
    log (.warn "Unknown server" [("player", .text (host.playerName player)),
      ("server", .text (host.serverName server))])

/-- Disconnects the player that a connect event refuses, and tells whether it
refuses one. -/
def obey (event : Event) : Action Memory Bool := do
  match event.refusal? with
  | some (player, reason) =>
    disconnect call player reason
    return true
  | none => return false

end PluginBridge.Action
