import PluginBridge.Host.Registry

/-! A game host with its players, servers and registrations. Everyone who ever
joined stays known; the players of the host are those who are listed and have
not been disconnected. -/
namespace PluginBridge.Host
open Text

inductive Kind where
  | server
  | proxy
deriving DecidableEq, Repr

namespace Kind

def name : Kind → String
  | .server => "server"
  | .proxy => "proxy"

/-- The kind as diagnostics show it. -/
def title : Kind → String
  | .server => "Server"
  | .proxy => "Proxy"

/-- The name of a host of this kind. -/
def hostName : Kind → String
  | .server => "MemoryServer"
  | .proxy => "MemoryProxy"

end Kind

end Host

open Host Text in
structure Host where
  kind : Host.Kind
  /-- Everyone who ever joined, in that order. -/
  everyone : List Player
  /-- Those whom the host has not removed, in the order they joined. -/
  listed : List PlayerId
  servers : List Server
  registry : Registry
  /-- What the console was sent, oldest first. -/
  console : List String
  closed : Bool

namespace Host
open Text

def empty (kind : Kind) : Host := ⟨kind, [], [], [], .empty, [], false⟩

def name (host : Host) : String := host.kind.hostName

def version : String := "0.1.0"

/-- The name with the version, for people. -/
def title (host : Host) : String := host.name ++ " " ++ version

/-- The host as diagnostics show it. -/
def diagnostic (host : Host) : String :=
  "MemoryHost \x7b name: " ++ quoted host.name ++ ", kind: " ++ host.kind.title ++ ", .. \x7d"

def player? (host : Host) (id : PlayerId) : Option Player :=
  host.everyone[id]?

def isConnected (host : Host) (id : PlayerId) : Bool :=
  (host.player? id).any (·.isConnected)

/-- The players of the host, in the order they joined. -/
def players (host : Host) : List PlayerId :=
  host.listed.filter host.isConnected

def playerName (host : Host) (id : PlayerId) : String :=
  ((host.player? id).map (·.name)).getD ""

def serverOf (host : Host) (id : PlayerId) : Option ServerId :=
  (host.player? id).bind (·.server)

def updatePlayer (host : Host) (id : PlayerId) (change : Player → Player) : Host :=
  { host with everyone := host.everyone.modify id change }

def addPlayer (host : Host) (name : String) : Host × PlayerId :=
  ({ host with
      everyone := host.everyone ++ [.named name]
      listed := host.listed ++ [host.everyone.length] }, host.everyone.length)

/-- Takes a player off the list and off its server. -/
def removePlayer (host : Host) (id : PlayerId) : Host :=
  { host.updatePlayer id fun player => { player with server := none } with
    listed := host.listed.filter (· ≠ id) }

def addServer (host : Host) (name : String) (address : Address) : Host × ServerId :=
  ({ host with servers := host.servers ++ [⟨name, address, []⟩] }, host.servers.length)

def serverName (host : Host) (id : ServerId) : String :=
  ((host.servers[id]?).map (·.name)).getD ""

def sendData (host : Host) (id : ServerId) (channel : String) (data : ByteArray) : Host :=
  { host with servers := host.servers.modify id (·.receive channel data) }

/-- The first server of a name. -/
def serverNamed? (host : Host) (name : String) : Option ServerId :=
  host.servers.findIdx? fun server => sameLabel server.name name

/-- The first player of a name. -/
def playerNamed? (host : Host) (name : String) : Option PlayerId :=
  host.players.find? fun id => sameLabel (host.playerName id) name

/-- The players on a server, in the order they joined. -/
def playersOn (host : Host) (server : ServerId) : List PlayerId :=
  host.players.filter fun id => host.serverOf id = some server

def userName (host : Host) : ChatUser → String
  | .console name => name
  | .player id => host.playerName id

/-- The console holds every permission. -/
def hasPermission (host : Host) (user : ChatUser) (node : String) : Bool :=
  match user with
  | .console _ => true
  | .player id => (host.player? id).any (·.hasPermission node)

def permits (host : Host) (user : ChatUser) (permission : Option Permission) : Bool :=
  permission.all fun permission => host.hasPermission user permission.node

def tell (host : Host) (user : ChatUser) (message : String) : Host :=
  match user with
  | .console _ => { host with console := host.console ++ [message] }
  | .player id => host.updatePlayer id (·.receive message)

/-- Sends a message to each player of the host. -/
def broadcast (host : Host) (message : String) : Host :=
  host.players.foldl (fun host id => host.tell (.player id) message) host

/-- Changes the registry unless the host has been shut down. -/
def register {α : Type} (host : Host) (change : Registry → Except Refusal (Registry × α)) :
    Except Refusal (Host × α) :=
  if host.closed then .error (.closed host.name)
  else (change host.registry).map fun (registry, answer) => ({ host with registry }, answer)

def addListener (host : Host) (owner : String) (kind : HostEventKind) (hearer : Hearer) :
    Except Refusal (Host × ListenerId) :=
  host.register fun registry => .ok (registry.addListener owner kind hearer)

/-- Registers a hearer for each of the kinds, or for none of them. -/
def addListeners (host : Host) (owner : String) (hearer : Hearer) :
    List HostEventKind → Except (HostEventKind × Refusal) (Host × List ListenerId)
  | [] => .ok (host, [])
  | kind :: rest =>
    match host.addListener owner kind hearer with
    | .error refusal => .error (kind, refusal)
    | .ok (host, id) =>
      (host.addListeners owner hearer rest).map fun (host, ids) => (host, id :: ids)

/-- Takes a command unless another one answers to one of its labels. -/
def addCommand (host : Host) (offer : Offer) : Except Refusal (Host × Unit) :=
  host.register fun registry =>
    match registry.takenLabel? offer.name offer.aliases with
    | some label => .error (.labelTaken label)
    | none => .ok (registry.addCommand offer, ())

def removeListener (host : Host) (id : ListenerId) : Host × Bool :=
  let (registry, found) := host.registry.removeListener id
  ({ host with registry }, found)

def removeListeners (host : Host) (ids : List ListenerId) : Host :=
  ids.foldl (fun host id => (host.removeListener id).1) host

def removeListenersOf (host : Host) (owner : String) : Host × Nat :=
  let (registry, count) := host.registry.removeListenersOf owner
  ({ host with registry }, count)

def removeCommand (host : Host) (name : String) : Host × Bool :=
  let (registry, found) := host.registry.removeCommand name
  ({ host with registry }, found)

end Host
end PluginBridge
