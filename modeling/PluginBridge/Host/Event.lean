import PluginBridge.Host.Player

/-! The events a host fires about its players. Listeners share one event and may
edit a chat event, whose final message and cancellation the host obeys. -/
namespace PluginBridge
open Host (PlayerId ServerId)

inductive HostEventKind where
  | join
  | chat
  | quit
  | kick
  | switch
deriving DecidableEq, Repr

namespace HostEventKind

def all : List HostEventKind := [.join, .chat, .quit, .kick, .switch]

def name : HostEventKind → String
  | .join => "PlayerJoin"
  | .chat => "PlayerChat"
  | .quit => "PlayerQuit"
  | .kick => "PlayerKick"
  | .switch => "ServerSwitch"

def ofName? (name : String) : Option HostEventKind :=
  all.find? fun kind => kind.name == name

end HostEventKind

inductive HostEvent where
  | join (player : PlayerId)
  | chat (player : PlayerId) (message : String) (cancelled : Bool)
  | quit (player : PlayerId)
  | kick (player : PlayerId) (reason : String)
  | switch (player : PlayerId) (previous : Option ServerId) (server : ServerId)
deriving DecidableEq, Repr

/-- What a listener may change about an event. -/
inductive HostEdit where
  | message (text : String)
  | cancelled (flag : Bool)
deriving DecidableEq, Repr

namespace HostEvent

def kind : HostEvent → HostEventKind
  | .join _ => .join
  | .chat .. => .chat
  | .quit _ => .quit
  | .kick .. => .kick
  | .switch .. => .switch

def player : HostEvent → PlayerId
  | .join player | .chat player .. | .quit player | .kick player _ | .switch player .. => player

/-- An edit changes chat events only. -/
def apply : HostEdit → HostEvent → HostEvent
  | .message text, .chat player _ cancelled => .chat player text cancelled
  | .cancelled flag, .chat player message _ => .chat player message flag
  | _, event => event

@[simp] theorem kind_apply (edit : HostEdit) (event : HostEvent) :
    (event.apply edit).kind = event.kind := by
  cases edit <;> cases event <;> rfl

@[simp] theorem player_apply (edit : HostEdit) (event : HostEvent) :
    (event.apply edit).player = event.player := by
  cases edit <;> cases event <;> rfl

end HostEvent
end PluginBridge
