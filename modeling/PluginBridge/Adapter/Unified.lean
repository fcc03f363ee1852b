import PluginBridge.Adapter

/-! The form in which plugins see a host's event, which is the same for every host.
Its subject is the host event's, and a chat event starts out with the message and
the flag that the listeners before have left. -/
namespace PluginBridge

/-- Why a host's event has no unified form. -/
inductive UnifyFailure where
  | missingField (source field : String)
  | unexpectedParticipant (source expected : String)
deriving DecidableEq, Repr

def UnifyFailure.message : UnifyFailure → String
  | .missingField source field =>
    "native event '" ++ source ++ "' is missing required field '" ++ field ++ "'"
  | .unexpectedParticipant source expected =>
    "native event '" ++ source ++ "' carries a participant that is not a " ++ expected

/-- The event that plugins see. Only a server's users can be kicked, and only a
proxy's users change servers. -/
def HostEvent.unified (host : Host.Kind) : HostEvent → Except UnifyFailure Event
  | .join player => .ok (.connect ⟨player, false, none⟩)
  | .chat player message cancelled => .ok (.chat ⟨player, message, cancelled, true, true⟩)
  | .quit player => .ok (.disconnect player)
  | .kick player reason =>
    match host with
    | .server => .ok (.kick player reason)
    | .proxy => .error (.unexpectedParticipant HostEventKind.kick.name "server user")
  | .switch player previous server =>
    match host with
    | .proxy => .ok (.switch player previous server)
    | .server => .error (.unexpectedParticipant HostEventKind.switch.name "proxy user")

/-- The host's event once plugins have had their say. Only chat is written back;
a refused join is dealt with by disconnecting the player. -/
def HostEvent.reconciled : HostEvent → Event → HostEvent
  | .chat player message cancelled, .chat details =>
    let changes := details.writeBack message
    .chat player (changes.message.getD message) (changes.cancelled.getD cancelled)
  | event, _ => event

/-- The player that a connect event refuses, with the reason. -/
def Event.refusal? : Event → Option (Host.PlayerId × String)
  | .connect details =>
    if details.cancelled then some (details.user, details.disconnectReason) else none
  | _ => none

end PluginBridge
