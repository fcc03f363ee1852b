import PluginBridge.Host.Player

/-! Events as plugins see them, the same for every host. A user is a player
wrapped for plugins, and is known by the player. Cancelling does not stop an
event on its way; what counts is the flag that the last listener leaves. -/
namespace PluginBridge
open Host (PlayerId ServerId)

/-- A player is connecting. -/
structure Connect where
  user : PlayerId
  cancelled : Bool
  cancelReason : Option String
deriving DecidableEq, Repr

namespace Connect

/-- The reason for players that are refused without one. -/
def standardReason : String := "Disconnected"

def disconnectReason (connect : Connect) : String :=
  connect.cancelReason.getD standardReason

def cancelWith (connect : Connect) (reason : String) : Connect :=
  { connect with cancelled := true, cancelReason := some reason }

def setReason (connect : Connect) (reason : String) : Connect :=
  { connect with cancelReason := some reason }

end Connect

/-- Why an event cannot be edited. -/
inductive EditFailure where
  | notCancellable (event : String)
  | notModifiable (event : String)
deriving DecidableEq, Repr

def EditFailure.message : EditFailure → String
  | .notCancellable event => "event '" ++ event ++ "' is not cancellable"
  | .notModifiable event => "event '" ++ event ++ "' is not modifiable"

/-- A player has said something. The host decides whether the message may be
changed and whether it may be held back. -/
structure Chat where
  user : PlayerId
  message : String
  cancelled : Bool
  cancellable : Bool
  modifiable : Bool
deriving DecidableEq, Repr

namespace Chat

def name : String := "UserChatEvent"

def setMessage (chat : Chat) (message : String) : Except EditFailure Chat :=
  if chat.modifiable then .ok { chat with message } else .error (.notModifiable name)

def setCancelled (chat : Chat) (cancelled : Bool) : Except EditFailure Chat :=
  if chat.cancellable then .ok { chat with cancelled } else .error (.notCancellable name)

/-- What has to be written back to the host: the message if it may be changed and
was, the flag if it may be set. -/
structure WriteBack where
  message : Option String
  cancelled : Option Bool
deriving DecidableEq, Repr

/-- What to write back to a host that holds a message. -/
def writeBack (chat : Chat) (held : String) : WriteBack where
  message := if chat.modifiable && chat.message != held then some chat.message else none
  cancelled := if chat.cancellable then some chat.cancelled else none

end Chat

inductive Event where
  | connect (details : Connect)
  | chat (details : Chat)
  | disconnect (user : PlayerId)
  | kick (user : PlayerId) (reason : String)
  | switch (user : PlayerId) (previous : Option ServerId) (server : ServerId)
  /-- An event of a plugin's own, with a flag if it can be cancelled. -/
  | custom (name : String) (cancelled : Option Bool)
deriving DecidableEq, Repr

/-- The type of an event, which listeners subscribe to. -/
inductive EventKind where
  | connect
  | chat
  | disconnect
  | kick
  | switch
  | custom (name : String)
deriving DecidableEq, Repr

/-- What a listener may do to an event. -/
inductive Edit where
  | message (text : String)
  | cancelled (flag : Bool)
  | cancelWith (reason : String)
  | reason (text : String)
deriving DecidableEq, Repr

def EventKind.name : EventKind → String
  | .connect => "UserConnectEvent"
  | .chat => Chat.name
  | .disconnect => "UserDisconnectEvent"
  | .kick => "ServerUserKickEvent"
  | .switch => "ProxyUserSwitchEvent"
  | .custom name => name

namespace Event

def kind : Event → EventKind
  | .connect _ => .connect
  | .chat _ => .chat
  | .disconnect _ => .disconnect
  | .kick .. => .kick
  | .switch .. => .switch
  | .custom name _ => .custom name

def name (event : Event) : String := event.kind.name

/-- The user the event is about. -/
def user? : Event → Option PlayerId
  | .connect details => some details.user
  | .chat details => some details.user
  | .disconnect user | .kick user _ | .switch user .. => some user
  | .custom .. => none

/-- The cancellation flag, if the event's type has one. -/
def cancelled? : Event → Option Bool
  | .connect details => some details.cancelled
  | .chat details => some details.cancelled
  | .custom _ cancelled => cancelled
  | _ => none

def isCancelled (event : Event) : Bool :=
  event.cancelled?.getD false

/-- Edits an event. What its type does not have stays out of reach, and what the
host has ruled out is refused. -/
def apply : Edit → Event → Except EditFailure Event
  | .message text, .chat details => (details.setMessage text).map .chat
  | .cancelled flag, .connect details => .ok (.connect { details with cancelled := flag })
  | .cancelled flag, .chat details => (details.setCancelled flag).map .chat
  | .cancelled flag, .custom name (some _) => .ok (.custom name (some flag))
  | .cancelWith reason, .connect details => .ok (.connect (details.cancelWith reason))
  | .reason text, .connect details => .ok (.connect (details.setReason text))
  | _, event => .ok event

end Event
end PluginBridge
