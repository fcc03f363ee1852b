import PluginBridge.Host.Address

/-! The players of a host and the servers behind a proxy. A player that has been
disconnected stays so, and keeps the reason it was given first. -/
namespace PluginBridge.Host

/-- Players are numbered in the order they join. -/
abbrev PlayerId := Nat

/-- Servers are numbered in the order they are added. -/
abbrev ServerId := Nat

structure Player where
  name : String
  permissions : List (String × Bool)
  /-- The messages received, oldest first. -/
  messages : List String
  /-- Why the player was disconnected, if it was. -/
  disconnectReason : Option String
  /-- The server a proxy has sent the player to. -/
  server : Option ServerId
deriving DecidableEq, Repr

namespace Player

def named (name : String) : Player := ⟨name, [], [], none, none⟩

def isConnected (player : Player) : Bool :=
  player.disconnectReason.isNone

/-- A permission that nobody has set is not held. -/
def hasPermission (player : Player) (node : String) : Bool :=
  (player.permissions.lookup node).getD false

def setPermission (player : Player) (node : String) (held : Bool) : Player :=
  { player with permissions := (node, held) :: player.permissions }

def receive (player : Player) (message : String) : Player :=
  { player with messages := player.messages ++ [message] }

/-- The first reason stays. -/
def disconnect (player : Player) (reason : String) : Player :=
  { player with disconnectReason := player.disconnectReason <|> some reason }

end Player

structure Server where
  name : String
  address : Address
  /-- Data received on channels, oldest first. -/
  received : List (String × ByteArray)

def Server.receive (server : Server) (channel : String) (data : ByteArray) : Server :=
  { server with received := server.received ++ [(channel, data)] }

/-- Whoever gives a host a command line. -/
inductive Sender where
  | console
  | player (id : PlayerId)
deriving DecidableEq, Repr

end PluginBridge.Host
