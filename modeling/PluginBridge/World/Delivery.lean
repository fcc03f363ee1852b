import PluginBridge.State.Registration
import PluginBridge.World

/-! Delivering an event to the listeners of a bus. Those registered when delivery
begins all run, in order, whatever the others do; one that fails is logged, and
what it had edited stays edited. -/
namespace PluginBridge.Action
variable {Memory : Type} (call : Caller Memory)

/-- What is logged about a listener that failed on an event. -/
def failureFields (event : Event) (listener : Subscription) : List (String × Value) :=
  [("event", .text event.name), ("owner", .text listener.owner),
    ("listener", .text (Subscription.label listener.id)), ("listens_to", .text listener.target)]

def errorRecord (event : Event) (listener : Subscription) (message : String) : Log.Record :=
  .error "Event listener returned an error"
    (failureFields event listener ++ [("error", .text message)])

def panicRecord (event : Event) (listener : Subscription) (payload : Payload) : Log.Record :=
  .error "Event listener panicked"
    (failureFields event listener ++ [("panic", .text payload.message)])

/-- Hands an event to one listener. -/
def deliverTo (listener : Subscription) (event : Event) : Action Memory Event := do
  let (ending, edited) ← attempt call listener.code .hear () event
  match ending with
  | .ok (.ok ()) => return edited
  | .ok (.error message) =>
    log (errorRecord edited listener message)
    return edited
  | .error payload =>
    log (panicRecord edited listener payload)
    return edited

/-- Hands an event to listeners in turn. -/
def deliver : List Subscription → Event → Action Memory Event
  | [], event => return event
  | listener :: rest, event => do deliver rest (← deliverTo call listener event)

/-- Dispatches an event on the bus of an adapter. -/
def dispatch (adapter : AdapterId) (event : Event) : Action Memory Event := do
  note (.dispatched adapter event)
  deliver call (← see fun state => (state.bus adapter).listeners event.kind) event

/-- Dispatches the unified form of a host's event, if it has one. -/
def bridge (adapter : AdapterId) (source : String) :
    Except UnifyFailure Event → Action Memory (Option Event)
  | .error failure => do
    log (.error "Failed to translate native event"
      [("platform", .text (← see (·.adapter adapter)).platform), ("native", .text source),
        ("error", .text failure.message)])
    return none
  | .ok event => do
    let outcome ← dispatch call adapter event
    let known ← see (·.adapter adapter)
    if known.logEvents then
      log (.debug "Dispatched event"
        [("platform", .text known.platform), ("native", .text source),
          ("event", .text outcome.name), ("cancelled", .flag outcome.isCancelled)])
    return some outcome

end PluginBridge.Action
