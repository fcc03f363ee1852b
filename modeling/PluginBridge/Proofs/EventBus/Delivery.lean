import PluginBridge.Proofs.EventBus.Ledger
import PluginBridge.Proofs.World.Runs
import PluginBridge.Script

/-! Delivery, turn by turn. Who takes a turn is settled when delivery begins: it is
everyone who is registered then and hears the event, in the order of the bus. A
listener may do to the world what it likes in its turn, register and remove
listeners and dispatch more events included, and may end by an error or a panic;
the next listener finds the event as it was left, and the failure is logged. Only
the limits of the world itself, which code cannot bring about by failing, cut a
delivery short. -/
namespace PluginBridge
variable {Memory : Type}

/-- One listener's turn at an event. -/
structure Turn (Memory : Type) where
  listener : Subscription
  /-- The world and the event as the listener found them. -/
  before : World Memory
  found : Event
  /-- How the listener ended: in good order, by an error or by a panic. -/
  ending : Except Payload (Except String Unit)
  /-- The event and the world as the listener left them. -/
  left : Event
  after : World Memory

/-- The world a listener is called in, where the call has been noted. -/
def World.calling (world : World Memory) (listener : Subscription) : World Memory :=
  world.alter (·.note (.called listener.code .hear ()))

namespace Turn

/-- How the call ended as the caller sees it. -/
def called (turn : Turn Memory) : Called .hear where
  ending := match turn.ending with
    | .ok result => .ok result
    | .error payload => .error (.panic payload)
  subject := turn.left

/-- The listener was called, once, and this is what came of it. -/
def Made (call : Caller Memory) (turn : Turn Memory) : Prop :=
  (call turn.listener.code .hear () turn.found).run (turn.before.calling turn.listener) =
    (turn.called, turn.after)

def failed (turn : Turn Memory) : Prop := turn.ending ≠ .ok (.ok ())

/-- What is logged about the turn. -/
def report? (turn : Turn Memory) : Option Log.Record :=
  match turn.ending with
  | .ok (.ok ()) => none
  | .ok (.error message) => some (Action.errorRecord turn.left turn.listener message)
  | .error payload => some (Action.panicRecord turn.left turn.listener payload)

/-- The world once the turn is over. -/
def closing (turn : Turn Memory) : World Memory :=
  match turn.report? with
  | none => turn.after
  | some record => turn.after.alter (·.log record)

/-- A failure is reported once, as an error that names the event, the owner of the
listener and its number; a turn in good order is not reported. -/
theorem report_iff (turn : Turn Memory) :
    (¬ turn.failed → turn.report? = none) ∧
    (turn.failed → ∃ record, turn.report? = some record ∧ record.level = .error ∧
      ("event", .text turn.left.name) ∈ record.fields ∧
      ("owner", .text turn.listener.owner) ∈ record.fields ∧
      ("listener", .text (Subscription.label turn.listener.id)) ∈ record.fields) := by
  unfold failed report?
  rcases turn.ending with payload | message | _
  · refine ⟨fun good => absurd (by simp) good, fun _ => ⟨_, rfl, rfl, ?_⟩⟩
    simp [Action.panicRecord, Log.Record.error, Action.failureFields]
  · refine ⟨fun good => absurd (by simp) good, fun _ => ⟨_, rfl, rfl, ?_⟩⟩
    simp [Action.errorRecord, Log.Record.error, Action.failureFields]
  · exact ⟨fun _ => rfl, fun bad => absurd rfl bad⟩

end Turn

/-- Turns that follow on one another: each listener finds the world as the turn
before has closed it, and the event as it was left. -/
inductive Turns (call : Caller Memory) :
    World Memory → Event → List (Turn Memory) → World Memory → Event → Prop where
  | done (world : World Memory) (event : Event) : Turns call world event [] world event
  | next {turn : Turn Memory} {rest : List (Turn Memory)} {final : World Memory} {edited : Event}
      (made : turn.Made call) (following : Turns call turn.closing turn.left rest final edited) :
      Turns call turn.before turn.found (turn :: rest) final edited

/-- The world could not carry out a listener's call, and stopped for a reason that
is no panic. -/
def CutAt (call : Caller Memory) (listener : Subscription) (world : World Memory) (event : Event)
    (stop : Stop) (after : World Memory) : Prop :=
  (∀ payload, stop ≠ .panic payload) ∧
    ∃ left, (call listener.code .hear () event).run (world.calling listener) =
      (⟨.error stop, left⟩, after)

/-- How delivery to some listeners ends: they all have had their turns, or the
world has cut it short before one of them. -/
def Delivered (call : Caller Memory) (listeners : List Subscription) (turns : List (Turn Memory))
    (final : World Memory) (edited : Event) (outcome : Except Stop Event × World Memory) : Prop :=
  (turns.map (·.listener) = listeners ∧ outcome = (.ok edited, final)) ∨
    ∃ listener rest stop after, listeners = turns.map (·.listener) ++ listener :: rest ∧
      CutAt call listener final edited stop after ∧ outcome = (.error stop, after)

namespace Action
variable (call : Caller Memory)

/-- Handing an event to one listener is a turn of that listener, unless the world
cannot carry out the call. -/
theorem deliverTo_turn (listener : Subscription) (event : Event) (world : World Memory) :
    (∃ turn : Turn Memory, turn.Made call ∧ turn.listener = listener ∧ turn.before = world ∧
      turn.found = event ∧
      (deliverTo call listener event).on world = (.ok turn.left, turn.closing)) ∨
    ∃ stop after, CutAt call listener world event stop after ∧
      (deliverTo call listener event).on world = (.error stop, after) := by
  unfold deliverTo
  rw [on_bind, on_attempt]
  cases ran : (call listener.code .hear () event).run (world.calling listener) with
  | mk result after =>
    obtain ⟨ending, left⟩ := result
    change (call listener.code .hear () event).run
      (world.alter (·.note (.called listener.code .hear ()))) = _ at ran
    simp only [ran]
    rcases ending with (payload | _ | _) | (message | _)
    · exact .inl ⟨⟨listener, world, event, .error payload, left, after⟩, ran, rfl, rfl, rfl, rfl⟩
    · exact .inr ⟨.tooDeep, after, ⟨by simp, left, ran⟩, rfl⟩
    · exact .inr ⟨.undefined, after, ⟨by simp, left, ran⟩, rfl⟩
    · exact .inl ⟨⟨listener, world, event, .ok (.error message), left, after⟩,
        ran, rfl, rfl, rfl, rfl⟩
    · exact .inl ⟨⟨listener, world, event, .ok (.ok ()), left, after⟩, ran, rfl, rfl, rfl, rfl⟩

/-- Delivery gives every listener a turn, whatever the listeners before it did. The list was fixed
before the first turn; what a turn does to the bus is in the world that it leaves. -/
theorem deliver_turns (listeners : List Subscription) (event : Event) (world : World Memory) :
    ∃ turns final edited, Turns call world event turns final edited ∧
      Delivered call listeners turns final edited ((deliver call listeners event).on world) := by
  induction listeners generalizing event world with
  | nil => exact ⟨[], world, event, .done world event, .inl ⟨rfl, rfl⟩⟩
  | cons listener rest ih =>
    unfold deliver
    obtain ⟨turn, made, rfl, rfl, rfl, ran⟩ | ⟨stop, after, cut, ran⟩ :=
      deliverTo_turn call listener event world
    · rw [on_bind_ok ran]
      obtain ⟨turns, final, edited, following, ended⟩ := ih turn.left turn.closing
      refine ⟨turn :: turns, final, edited, .next made following, ?_⟩
      obtain ⟨all, outcome⟩ | ⟨next, others, stop, after, upTo, cut, outcome⟩ := ended
      · exact .inl ⟨by simp [all], outcome⟩
      · exact .inr ⟨next, others, stop, after, by simp [upTo], cut, outcome⟩
    · rw [on_bind_error ran]
      exact ⟨[], world, event, .done world event,
        .inr ⟨listener, rest, stop, after, rfl, cut, rfl⟩⟩

end Action

/-- Edits change what an event says, never its type. -/
theorem Event.kind_amend (event : Event) (edit : Edit) :
    (Role.amend .hear event edit).kind = event.kind := by
  cases edit <;> cases event <;>
    simp only [Role.amend, Role.apply, Event.apply, Chat.setMessage, Chat.setCancelled] <;>
    grind [Event.kind, Except.map]

theorem Event.kind_edits (event : Event) (edits : List Edit) :
    (edits.foldl (Role.amend .hear) event).kind = event.kind := by
  induction edits generalizing event with
  | nil => rfl
  | cons edit rest ih => rw [List.foldl_cons, ih, kind_amend]

namespace Turn
variable {depth : Nat} {turn : Turn Memory}

/-- The event that a listener leaves carries every edit its program made, however
the program ended. -/
def KeepsEdits (depth : Nat) (turn : Turn Memory) : Prop :=
  ∃ inner code, depth = inner + 1 ∧ turn.before.shelf[turn.listener.code]? = some code ∧
    turn.left = ((code .hear ()).edits (callWithin inner) turn.found
      (turn.before.calling turn.listener)).foldl (Role.amend .hear) turn.found

theorem Made.keepsEdits (made : turn.Made (callWithin depth)) : turn.KeepsEdits depth := by
  unfold Made called at made
  cases depth with
  | zero =>
    cases ended : turn.ending <;> rw [ended] at made <;> cases made
  | succ inner =>
    rw [callWithin_succ] at made
    cases shelved : (turn.before.calling turn.listener).shelf[turn.listener.code]? with
    | none =>
      rw [shelved] at made
      cases ended : turn.ending <;> rw [ended] at made <;> cases made
    | some code =>
      rw [shelved] at made
      refine ⟨inner, code, rfl, shelved, ?_⟩
      rw [← Program.run_subject]
      exact (congrArg (·.1.subject) made).symm

theorem KeepsEdits.kind (kept : turn.KeepsEdits depth) : turn.left.kind = turn.found.kind := by
  obtain ⟨inner, code, -, -, left⟩ := kept
  rw [left]
  exact Event.kind_edits _ _

end Turn

theorem Turns.all_made {call : Caller Memory} {world final : World Memory} {event edited : Event}
    {turns : List (Turn Memory)} (taken : Turns call world event turns final edited) :
    ∀ turn ∈ turns, turn.Made call := by
  induction taken with
  | done world event => simp
  | next made following ih => simpa using ⟨made, ih⟩

/-- All through a delivery the event stays of its type. -/
theorem Turns.kind_left {depth : Nat} {world final : World Memory} {event edited : Event}
    {turns : List (Turn Memory)}
    (taken : Turns (callWithin depth) world event turns final edited) :
    ∀ turn ∈ turns, turn.left.kind = event.kind := by
  induction taken with
  | done world event => simp
  | next made following ih =>
    have kind := made.keepsEdits.kind
    intro turn member
    obtain rfl | later := List.mem_cons.mp member
    · exact kind
    · exact (ih turn later).trans kind

theorem Delivered.no_panic {call : Caller Memory} {listeners : List Subscription}
    {turns : List (Turn Memory)} {final : World Memory} {edited : Event}
    {outcome : Except Stop Event × World Memory}
    (delivered : Delivered call listeners turns final edited outcome) (payload : Payload) :
    outcome.1 ≠ .error (.panic payload) := by
  obtain ⟨-, rfl⟩ | ⟨_, _, stop, _, -, ⟨limit, -⟩, rfl⟩ := delivered
  · simp
  · simpa using limit payload

theorem Subscription.hears_iff (subscription : Subscription) (kind : EventKind) :
    subscription.hears kind = true ↔ subscription.kind = none ∨ subscription.kind = some kind := by
  unfold Subscription.hears
  cases subscription.kind <;> simp

/-- On a bus that has served any requests, a dispatch gives one turn to each live
registration that was made for the event's type or for all events, and to nobody
else: by priority, and in the order of registration within a priority. Nothing
that happens in a turn changes who comes next. Each turn starts from the world and
the event that the turn before has left, with all edits made in it. A failure is
logged once, by an error that names the event, the owner and the number, and goes
no further: the caller gets the edited event, unless the world's limit on nested
calls, or code that nobody defined, has cut the delivery short. -/
theorem dispatch_reaches_every_listener (depth : Nat) (requests : List BusRequest)
    (adapter : AdapterId) (event : Event) (world : World Memory)
    (reached : world.state.bus adapter = EventBus.after requests) :
    ∃ order turns final edited,
      (∀ listener, listener ∈ order ↔ listener ∈ (Ledger.after requests).live ∧
        (listener.kind = none ∨ listener.kind = some event.kind)) ∧
      order.Pairwise Subscription.RunsBefore ∧ (order.map (·.id)).Nodup ∧
      Turns (callWithin depth) (world.alter (·.note (.dispatched adapter event))) event
        turns final edited ∧
      Delivered (callWithin depth) order turns final edited
        ((Action.dispatch (callWithin depth) adapter event).on world) ∧
      (∀ payload, ((Action.dispatch (callWithin depth) adapter event).on world).1 ≠
        .error (.panic payload)) ∧
      ∀ turn ∈ turns, turn.KeepsEdits depth ∧ (¬ turn.failed → turn.report? = none) ∧
        (turn.failed → ∃ record, turn.report? = some record ∧ record.level = .error ∧
          ("event", .text event.name) ∈ record.fields ∧
          ("owner", .text turn.listener.owner) ∈ record.fields ∧
          ("listener", .text (Subscription.label turn.listener.id)) ∈ record.fields) := by
  have follows := EventBus.after_follows requests
  rw [← reached] at follows
  obtain ⟨turns, final, edited, taken, delivered⟩ := Action.deliver_turns (callWithin depth)
    ((world.state.bus adapter).listeners event.kind) event
    (world.alter (·.note (.dispatched adapter event)))
  refine ⟨(world.state.bus adapter).listeners event.kind, turns, final, edited, ?_,
    follows.order.sublist List.filter_sublist, ?_, taken, delivered, delivered.no_panic, ?_⟩
  · intro listener
    unfold EventBus.listeners
    rw [List.mem_filter, follows.same.mem_iff, Subscription.hears_iff]
  · exact follows.ids_nodup.sublist (List.filter_sublist.map _)
  · intro turn member
    have kind := taken.kind_left turn member
    have named : turn.left.name = event.name := congrArg EventKind.name kind
    refine ⟨(taken.all_made turn member).keepsEdits, ?_⟩
    rw [← named]
    exact turn.report_iff

/-- A listener that edits a message, removes the next listener and panics, one that
refuses the message with an error, and one for all events. -/
def stormyShelf : List (Code Unit) :=
  [.listener (.edit (.message "edited") fun _ => .ask (.unsubscribe 0 1) fun _ =>
      .panic (.text "lost")),
    .listener (.edit (.cancelled true) fun _ => .finish (.error "refused")),
    .listener (.finish (.ok ()))]

def stormyRequests : List BusRequest :=
  [.subscribe none "watch" .monitor 2, .subscribe (some .chat) "greeter" .normal 1,
    .subscribe (some .connect) "greeter" .lowest 2, .subscribe (some .chat) "greeter" .low 0]

def stormyWorld : World Unit :=
  { state := { State.initial .server ⟨.empty, [], "/", "/"⟩ with
      adapters := [{ Adapter.detached "memory" "CONSOLE" false with
        bus := EventBus.after stormyRequests }] }
    memory := ()
    shelf := stormyShelf }

def stormyChat : Event := .chat ⟨0, "hi", false, true, true⟩

/-- Who hears the chat event, in order. -/
def stormyOrder : List Subscription :=
  [⟨3, "greeter", .low, some .chat, 0⟩, ⟨1, "greeter", .normal, some .chat, 1⟩,
    ⟨0, "watch", .monitor, none, 2⟩]

/-- The panic of one listener and the error of another get nowhere: all three have their turns, the
removed one included, and the caller gets the event with both edits. -/
theorem dispatch_survives_storm :
    stormyWorld.state.bus 0 = EventBus.after stormyRequests ∧
      ∃ turns final,
        Turns (callWithin 2) (stormyWorld.alter (·.note (.dispatched 0 stormyChat))) stormyChat
          turns final (.chat ⟨0, "edited", true, true, true⟩) ∧
        turns.map (·.listener) = stormyOrder ∧
        (Action.dispatch (callWithin 2) 0 stormyChat).on stormyWorld =
          (.ok (.chat ⟨0, "edited", true, true, true⟩), final) := by
  obtain ⟨order, turns, final, edited, who, sorted, ids, taken, delivered, -, -⟩ :=
    dispatch_reaches_every_listener 2 stormyRequests 0 stormyChat stormyWorld rfl
  have same : order.Perm stormyOrder := by
    have live : (Ledger.after stormyRequests).live.filter (·.hears stormyChat.kind) =
        stormyOrder.reverse := by
      decide
    refine (List.perm_ext_iff_of_nodup (ids.of_map _) (by decide)).mpr fun listener => ?_
    have heard : listener ∈ (Ledger.after stormyRequests).live.filter
          (·.hears stormyChat.kind) ↔ listener ∈ (Ledger.after stormyRequests).live ∧
            listener.hears stormyChat.kind = true :=
      List.mem_filter
    rw [who, ← Subscription.hears_iff, ← heard, live, List.mem_reverse]
  have inOrder : stormyOrder.Pairwise Subscription.RunsBefore := by
    unfold Subscription.RunsBefore
    decide
  obtain rfl := EventBus.order_unique sorted inOrder same
  have returned : ((Action.dispatch (callWithin 2) 0 stormyChat).on stormyWorld).1.toOption =
      some (.chat ⟨0, "edited", true, true, true⟩) := by
    decide +kernel
  obtain ⟨all, outcome⟩ | ⟨_, _, stop, _, -, -, outcome⟩ := delivered
  · rw [outcome] at returned
    obtain rfl := Option.some.inj returned
    exact ⟨rfl, turns, final, taken, all, outcome⟩
  · rw [outcome] at returned
    cases returned

end PluginBridge
