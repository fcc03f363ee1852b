import PluginBridge.Command
import PluginBridge.Host.Event
import PluginBridge.Text.Character

/-! What is registered with a host: listeners in the order they were registered,
and commands of which no two answer to one label. A host that has been shut down
takes no more registrations. -/
namespace PluginBridge

/-- Names the adapter that connects a plugin core to the host. -/
abbrev AdapterId := Nat

namespace Host
open Text

abbrev ListenerId := Nat

/-- Who hears an event: code, or an adapter that passes it on to its bus. -/
inductive Hearer where
  | code (id : CodeId)
  | adapter (id : AdapterId)
deriving DecidableEq, Repr

structure Listener where
  id : ListenerId
  owner : String
  kind : HostEventKind
  hearer : Hearer
deriving DecidableEq, Repr

/-- Who runs a command: code, or an adapter on behalf of a plugin. -/
inductive Executor where
  | code (id : CodeId)
  | adapter (id : AdapterId) (command : Command)
deriving DecidableEq, Repr

/-- A command that the host runs for those who type one of its labels. -/
structure Offer where
  owner : String
  name : String
  aliases : List String
  executor : Executor
deriving DecidableEq, Repr

def Offer.answersTo (offer : Offer) (label : String) : Bool :=
  answers offer.name offer.aliases label

/-- Why a host refuses a registration. -/
inductive Refusal where
  | closed (host : String)
  | labelTaken (label : String)
deriving DecidableEq, Repr

def Refusal.message : Refusal → String
  | .closed host => host ++ " is shutting down"
  | .labelTaken label => "label '" ++ label ++ "' is already registered"

structure Registry where
  listeners : List Listener
  nextListener : ListenerId
  commands : List Offer
deriving DecidableEq, Repr

namespace Registry

def empty : Registry := ⟨[], 1, []⟩

def addListener (registry : Registry) (owner : String) (kind : HostEventKind) (hearer : Hearer) :
    Registry × ListenerId :=
  ({ registry with
      listeners := registry.listeners ++ [⟨registry.nextListener, owner, kind, hearer⟩]
      nextListener := registry.nextListener + 1 }, registry.nextListener)

/-- Removes one listener, and tells whether there was one. -/
def removeListener (registry : Registry) (id : ListenerId) : Registry × Bool :=
  ({ registry with listeners := registry.listeners.filter (·.id ≠ id) },
    registry.listeners.any (·.id = id))

/-- Removes an owner's listeners, and tells how many there were. -/
def removeListenersOf (registry : Registry) (owner : String) : Registry × Nat :=
  ({ registry with listeners := registry.listeners.filter (·.owner ≠ owner) },
    (registry.listeners.filter (·.owner = owner)).length)

/-- The listeners that hear a kind of event, in the order they run. -/
def listenersOf (registry : Registry) (kind : HostEventKind) : List Listener :=
  registry.listeners.filter (·.kind = kind)

/-- The command that a label runs. -/
def command? (registry : Registry) (label : String) : Option Offer :=
  registry.commands.find? (·.answersTo label)

/-- The first label of a command that another command already answers to. -/
def takenLabel? (registry : Registry) (name : String) (aliases : List String) : Option String :=
  (name :: aliases).find? fun label => (registry.command? label).isSome

def addCommand (registry : Registry) (offer : Offer) : Registry :=
  { registry with commands := registry.commands ++ [offer] }

/-- Removes the commands of a name, and tells whether there were any. -/
def removeCommand (registry : Registry) (name : String) : Registry × Bool :=
  ({ registry with commands := registry.commands.filter fun offer => !sameLabel offer.name name },
    registry.commands.any fun offer => sameLabel offer.name name)

/-- The names of an owner's commands. -/
def commandsOf (registry : Registry) (owner : String) : List String :=
  (registry.commands.filter (·.owner = owner)).map (·.name)

end Registry

/-- The text before the first blank, and what follows that blank if there is one. -/
def cutAtBlank : List Char → List Char × Option (List Char)
  | [] => ([], none)
  | c :: rest =>
    if isBlank c then ([], some rest)
    else
      let (label, following) := cutAtBlank rest
      (c :: label, following)

/-- The label of a command line and the text of its arguments, if the label has
been left. Blanks in front are passed over, and so are slashes. -/
def splitLine (line : String) : String × Option String :=
  let (label, following) := cutAtBlank ((trimStart line.toList).dropWhile (· = '/'))
  (String.ofList label, following.map String.ofList)

end Host
end PluginBridge
