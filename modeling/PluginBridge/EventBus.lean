import PluginBridge.Event

/-! A bus keeps the listeners of one plugin core in the order they run: by
priority, and in the order of their registration within a priority. Each
registration has a number of its own, and no number is used twice. -/
namespace PluginBridge

/-- Names the code of a program that has been defined. -/
abbrev CodeId := Nat

/-- Lower priorities run first. -/
inductive Priority where
  | lowest
  | low
  | normal
  | high
  | highest
  /-- Runs last, to see how an event ends. -/
  | monitor
deriving DecidableEq, Repr

namespace Priority

def all : List Priority := [.lowest, .low, .normal, .high, .highest, .monitor]

def name : Priority → String
  | .lowest => "lowest"
  | .low => "low"
  | .normal => "normal"
  | .high => "high"
  | .highest => "highest"
  | .monitor => "monitor"

def ofName? (name : String) : Option Priority :=
  all.find? fun priority => priority.name == name

def rank : Priority → Nat
  | .lowest => 0
  | .low => 1
  | .normal => 2
  | .high => 3
  | .highest => 4
  | .monitor => 5

def standard : Priority := .normal

end Priority

abbrev SubscriptionId := Nat

structure Subscription where
  id : SubscriptionId
  owner : String
  priority : Priority
  /-- The type of event listened to; none means every event. -/
  kind : Option EventKind
  code : CodeId
deriving DecidableEq, Repr

namespace Subscription

def hears (subscription : Subscription) (kind : EventKind) : Bool :=
  subscription.kind.all (· = kind)

/-- What logs say a listener listens to. -/
def target (subscription : Subscription) : String :=
  (subscription.kind.map EventKind.name).getD "ChameleonEvent"

def label (id : SubscriptionId) : String := "#" ++ toString id

end Subscription

structure EventBus where
  /-- The registrations in the order they run. -/
  subscriptions : List Subscription
  nextId : SubscriptionId
deriving DecidableEq, Repr

namespace EventBus

def empty : EventBus := ⟨[], 0⟩

/-- Looks for the first item that fails a test between two places, by halving.
Everything before `low` passes, and everything from `high` on fails. -/
def boundary {α : Type} (test : α → Bool) (items : List α) (low high : Nat) : Nat :=
  if low < high then
    let middle := (low + high) / 2
    if (items[middle]?).any test then boundary test items (middle + 1) high
    else boundary test items low middle
  else low
termination_by high - low

/-- How many items pass a test, if those that pass stand in front of those that
do not. -/
def partitionPoint {α : Type} (test : α → Bool) (items : List α) : Nat :=
  boundary test items 0 items.length

/-- Puts a registration behind those that run no later. -/
def place (subscription : Subscription) (subscriptions : List Subscription) : List Subscription :=
  subscriptions.insertIdx
    (partitionPoint (fun known => known.priority.rank ≤ subscription.priority.rank) subscriptions)
    subscription

def subscribe (bus : EventBus) (kind : Option EventKind) (owner : String) (priority : Priority)
    (code : CodeId) : EventBus × SubscriptionId :=
  let subscription := ⟨bus.nextId, owner, priority, kind, code⟩
  (⟨place subscription bus.subscriptions, bus.nextId + 1⟩, bus.nextId)

/-- Removes one registration, and tells whether there was one. -/
def unsubscribe (bus : EventBus) (id : SubscriptionId) : EventBus × Bool :=
  ({ bus with subscriptions := bus.subscriptions.filter (·.id ≠ id) },
    bus.subscriptions.any (·.id = id))

def ownedBy (bus : EventBus) (owner : String) : List Subscription :=
  bus.subscriptions.filter (·.owner = owner)

/-- Removes an owner's registrations, and tells how many there were. -/
def unsubscribeOwner (bus : EventBus) (owner : String) : EventBus × Nat :=
  ({ bus with subscriptions := bus.subscriptions.filter (·.owner ≠ owner) },
    (bus.ownedBy owner).length)

def count (bus : EventBus) : Nat := bus.subscriptions.length

def countOf (bus : EventBus) (owner : String) : Nat := (bus.ownedBy owner).length

/-- The registrations that hear a type of event, in the order they run. -/
def listeners (bus : EventBus) (kind : EventKind) : List Subscription :=
  bus.subscriptions.filter (·.hears kind)

/-- The bus as diagnostics show it. -/
def diagnostic (bus : EventBus) : String :=
  "EventBus \x7b listener_count: " ++ toString bus.count ++ " \x7d"

end EventBus
end PluginBridge
