import PluginBridge.Proofs.EventBus.Delivery
import PluginBridge.Proofs.State.Phases
import PluginBridge.Proofs.World.Progress

/-! A firing, turn by turn. The host's listeners take their turns in the order in which
they were registered when the firing began, until one of them does not return: a native
listener that panics takes the host down with it, while nothing that happens on the bus
of an adapter does. In its turn an adapter dispatches the event once, in the form that
plugins see, with what the listeners before have made of it. -/
namespace PluginBridge
open Host (PlayerId Listener)
variable {Memory : Type}

/-! ## What listeners can make of an event -/

/-- An event of the host as listeners may leave it: of chat, what was said and whether it
is held back may be another. -/
inductive HostEvent.Edited : HostEvent → HostEvent → Prop where
  | same (event : HostEvent) : Edited event event
  | chat (player : PlayerId) {message said : String} {cancelled held : Bool} :
      Edited (.chat player message cancelled) (.chat player said held)

namespace HostEvent
variable {event between other : HostEvent}

theorem Edited.trans (first : event.Edited between) (second : between.Edited other) :
    event.Edited other := by
  cases first with
  | same => exact second
  | chat player => cases second <;> exact .chat player

theorem Edited.kind (edited : event.Edited other) : other.kind = event.kind := by
  cases edited <;> rfl

theorem Edited.player (edited : event.Edited other) : other.player = event.player := by
  cases edited <;> rfl

theorem edited_apply (edit : HostEdit) (event : HostEvent) : event.Edited (event.apply edit) := by
  cases edit <;> cases event <;> first | exact .same _ | exact .chat _

theorem edited_amended (edits : List HostEdit) (event : HostEvent) :
    event.Edited (edits.foldl (Role.amend .hearHost) event) := by
  induction edits generalizing event with
  | nil => exact .same event
  | cons edit rest ih => exact (event.edited_apply edit).trans (ih (event.apply edit))

theorem edited_reconciled (event : HostEvent) (outcome : Event) :
    event.Edited (event.reconciled outcome) := by
  cases event <;> cases outcome <;> first | exact .same _ | exact .chat _

end HostEvent

/-- A native listener leaves the event it was called for, with its edits. -/
theorem callWithin_edited (depth : Nat) (code : CodeId) (event : HostEvent) (world : World Memory) :
    event.Edited ((callWithin depth code .hearHost () event).run world).1.subject := by
  cases depth with
  | zero => exact .same event
  | succ depth =>
    rw [callWithin_succ]
    cases world.shelf[code]? with
    | none => exact .same event
    | some written =>
      dsimp only
      rw [Program.run_subject]
      exact event.edited_amended _

/-! ## The form that plugins see -/

/-- The type of a host's event as plugins see it. -/
def HostEventKind.unified : HostEventKind → EventKind
  | .join => .connect
  | .chat => .chat
  | .quit => .disconnect
  | .kick => .kick
  | .switch => .switch

/-- What an adapter listens to always has a form that plugins see. -/
theorem HostEvent.unified_of_heard {event : HostEvent} {host : Host.Kind}
    (heard : event.kind ∈ Adapter.kinds host) : ∃ unified, event.unified host = .ok unified ∧
      unified.kind = event.kind.unified ∧ unified.user? = some event.player := by
  cases event with
  | join | chat | quit => exact ⟨_, rfl, rfl, rfl⟩
  | kick player reason =>
    cases host with
    | server => exact ⟨_, rfl, rfl, rfl⟩
    | proxy => simp [kind, Adapter.kinds] at heard
  | switch player previous server =>
    cases host with
    | proxy => exact ⟨_, rfl, rfl, rfl⟩
    | server => simp [kind, Adapter.kinds] at heard

namespace Action
variable (call : Caller Memory) (turnAway : PlayerId → String → Action Memory Unit)

/-- What an adapter does once its bus has heard of an event of the host. -/
def settle (adapter : AdapterId) (event : HostEvent) (outcome : Event) :
    Action Memory HostEvent := do
  let known ← see (·.adapter adapter)
  if known.logEvents then
    log (.debug "Dispatched event"
      [("platform", .text known.platform), ("native", .text event.kind.name),
        ("event", .text outcome.name), ("cancelled", .flag outcome.isCancelled)])
  match outcome.refusal? with
  | some (player, reason) => turnAway player reason
  | none => pure ()
  return event.reconciled outcome

/-- An adapter's turn is one dispatch of the event, and what follows from it. -/
theorem on_pass {world : World Memory} {adapter : AdapterId} {event : HostEvent} {unified : Event}
    (unifies : event.unified world.state.host.kind = .ok unified) :
    (pass call turnAway adapter event).on world =
      (dispatch call adapter unified >>= settle turnAway adapter event).on world := by
  unfold pass bridge
  rw [on_bind_ok (on_see ..), unifies]
  simp only [bind_assoc]
  rw [on_bind, on_bind]
  rcases (dispatch call adapter unified).on world with ⟨stop | outcome, between⟩
  · rfl
  · unfold settle
    dsimp only
    rw [on_bind_ok (on_see ..), on_bind_ok (on_see ..)]
    cases (between.state.adapter adapter).logEvents <;> cases refused : outcome.refusal? <;>
      simp only [Bool.false_eq_true, if_true, if_false, bind_assoc, pure_bind, refused]

/-- A dispatch is noted once, and what is left is the delivery and what follows from it. -/
theorem on_dispatch_bind {β : Type} (adapter : AdapterId) (event : Event)
    (next : Event → Action Memory β) (world : World Memory) :
    (dispatch call adapter event >>= next).on world =
      (deliver call ((world.state.bus adapter).listeners event.kind) event >>= next).on
        (world.alter (·.note (.dispatched adapter event))) := by
  unfold dispatch
  rw [bind_assoc, on_bind_ok (on_note ..), bind_assoc, on_bind_ok (on_see ..)]
  rfl

theorem keeps_settle {law : World.Law Memory}
    (turning : ∀ player reason, (turnAway player reason).Keeps law) (adapter : AdapterId)
    (event : HostEvent) (outcome : Event) : (settle turnAway adapter event outcome).Keeps law := by
  refine (keeps_see _).bind fun known => ?_
  split
  · have turned := fun player reason => (turning player reason).bind fun _ =>
      keeps_pure (event.reconciled outcome)
    split
    · exact (keeps_log _).bind fun _ => turned _ _
    · exact turned _ _
  · split
    · exact (keeps_log _).bind fun _ => keeps_pure _
    · exact keeps_pure _

/-- In its turn an adapter adds the dispatch of the event to the history, and then what comes of
that. -/
theorem dispatch_noted {call : Caller Memory} (steady : Caller.Keeps .reaching call)
    (turning : ∀ player reason, (turnAway player reason).Keeps .reaching) (adapter : AdapterId)
    (event : HostEvent) (unified : Event) (world : World Memory) :
    ∃ later, ((dispatch call adapter unified >>= settle turnAway adapter event).on
      world).2.state.history = world.state.history ++ .dispatched adapter unified :: later := by
  rw [on_dispatch_bind]
  have keeps := (keeps_deliver steady ((world.state.bus adapter).listeners unified.kind)
    unified).bind (keeps_settle turnAway turning adapter event)
  have grown := (keeps.comes (world.alter (·.note (.dispatched adapter unified)))).1.history_grows
  obtain ⟨later, same⟩ := grown
  refine ⟨later, same.symm.trans ?_⟩
  simp [World.alter, State.note]

theorem pass_edited {world after : World Memory} {adapter : AdapterId} {event answer : HostEvent}
    (ran : (pass call turnAway adapter event).on world = (.ok answer, after)) :
    event.Edited answer := by
  obtain ⟨kind, seen, -, ran⟩ := ok_of_bind ran
  obtain ⟨outcome, bridged, -, ran⟩ := ok_of_bind ran
  cases outcome with
  | none =>
    obtain rfl : event = answer := Except.ok.inj (congrArg Prod.fst ran)
    exact .same event
  | some outcome =>
    obtain ⟨turned, ran⟩ : ∃ turned : World Memory,
        (pure (event.reconciled outcome) : Action Memory HostEvent).on turned =
          (.ok answer, after) := by
      dsimp only at ran
      split at ran
      · obtain ⟨-, turned, -, ran⟩ := ok_of_bind ran
        exact ⟨turned, ran⟩
      · exact ⟨bridged, ran⟩
    obtain rfl : event.reconciled outcome = answer := Except.ok.inj (congrArg Prod.fst ran)
    exact event.edited_reconciled outcome

/-- Code that was called and has returned leaves the subject of the call. -/
theorem demand_subject {code : CodeId} {role : Role} {input : role.Input}
    {subject left : role.Subject} {result : role.Result} {world after : World Memory}
    (ran : (demand call code role input subject).on world = (.ok (result, left), after)) :
    ((call code role input subject).run
      (world.alter (·.note (.called code role input)))).1.subject = left := by
  rw [on_demand] at ran
  generalize (call code role input subject).run _ = called at ran ⊢
  rcases called with ⟨⟨_ | _, _⟩, _⟩ <;> cases ran
  rfl

theorem hand_edited (depth : Nat) {world after : World Memory} {listener : Listener}
    {event answer : HostEvent}
    (ran : (hand (callWithin depth) turnAway listener event).on world = (.ok answer, after)) :
    event.Edited answer := by
  unfold hand at ran
  split at ran
  · obtain ⟨⟨result, left⟩, between, demanded, ran⟩ := ok_of_bind ran
    obtain rfl : left = answer := Except.ok.inj (congrArg Prod.fst ran)
    exact demand_subject _ demanded ▸ callWithin_edited depth _ event _
  · exact pass_edited _ _ ran

end Action

/-! ## Turns -/

/-- One listener's turn at an event of the host. -/
structure HostTurn (Memory : Type) where
  listener : Listener
  /-- The world and the event as the listener found them. -/
  before : World Memory
  found : HostEvent
  /-- The event as the listener left it, if it returned, and the world after it. -/
  outcome : Except Stop HostEvent × World Memory

/-- The turns of listeners, each of which finds the world and the event as the one before
has left them, up to the first that does not return. -/
inductive HostTurns (call : Caller Memory) (turnAway : PlayerId → String → Action Memory Unit) :
    World Memory → HostEvent → List Listener → List (HostTurn Memory) →
      Except Stop HostEvent × World Memory → Prop where
  | done (world : World Memory) (event : HostEvent) :
      HostTurns call turnAway world event [] [] (.ok event, world)
  | next {world after : World Memory} {event left : HostEvent} {listener : Listener}
      {listeners : List Listener} {turns : List (HostTurn Memory)}
      {outcome : Except Stop HostEvent × World Memory}
      (returned : (Action.hand call turnAway listener event).on world = (.ok left, after))
      (following : HostTurns call turnAway after left listeners turns outcome) :
      HostTurns call turnAway world event (listener :: listeners)
        (⟨listener, world, event, (.ok left, after)⟩ :: turns) outcome
  | stopped {world after : World Memory} {event : HostEvent} {listener : Listener} {stop : Stop}
      (listeners : List Listener)
      (failed : (Action.hand call turnAway listener event).on world = (.error stop, after)) :
      HostTurns call turnAway world event (listener :: listeners)
        [⟨listener, world, event, (.error stop, after)⟩] (.error stop, after)

/-- Handing an event to listeners gives each of them a turn until one does not return. -/
theorem Action.handAll_turns (call : Caller Memory)
    (turnAway : PlayerId → String → Action Memory Unit) (listeners : List Listener)
    (event : HostEvent) (world : World Memory) :
    ∃ turns, HostTurns call turnAway world event listeners turns
      ((handAll call turnAway listeners event).on world) := by
  induction listeners generalizing event world with
  | nil => exact ⟨[], .done world event⟩
  | cons listener rest ih =>
    unfold handAll
    rcases ran : (hand call turnAway listener event).on world with ⟨stop | left, after⟩
    · rw [on_bind_error ran]
      exact ⟨_, .stopped rest ran⟩
    · rw [on_bind_ok ran]
      obtain ⟨turns, following⟩ := ih left after
      exact ⟨_, .next ran following⟩

namespace HostTurns
variable {call : Caller Memory} {turnAway : PlayerId → String → Action Memory Unit}
  {world : World Memory} {event : HostEvent} {listeners : List Listener}
  {turns : List (HostTurn Memory)} {outcome : Except Stop HostEvent × World Memory}

/-- The turns are those of the first listeners, and of all of them unless one has not
returned. -/
theorem listeners_eq (taken : HostTurns call turnAway world event listeners turns outcome) :
    turns.map (·.listener) <+: listeners ∧
      (∀ answer, outcome.1 = .ok answer → turns.map (·.listener) = listeners) := by
  induction taken with
  | done world event => exact ⟨List.prefix_rfl, fun _ _ => rfl⟩
  | next returned following ih =>
    exact ⟨(List.prefix_cons_inj _).mpr ih.1, fun answer ended => congrArg _ (ih.2 answer ended)⟩
  | stopped listeners failed => exact ⟨(List.prefix_cons_inj _).mpr (List.nil_prefix), nofun⟩

theorem made (taken : HostTurns call turnAway world event listeners turns outcome) :
    ∀ turn ∈ turns,
      (Action.hand call turnAway turn.listener turn.found).on turn.before = turn.outcome := by
  induction taken with
  | done world event => simp
  | next returned following ih => exact List.forall_mem_cons.mpr ⟨returned, ih⟩
  | stopped listeners failed => exact List.forall_mem_singleton.mpr failed

/-- A firing that is stopped is stopped by its last turn, and comes out as that turn has. -/
theorem stopped_by {stop : Stop}
    (taken : HostTurns call turnAway world event listeners turns outcome)
    (ended : outcome.1 = .error stop) :
    ∃ earlier turn, turns = earlier ++ [turn] ∧ turn.outcome = outcome := by
  induction taken with
  | done world event => cases ended
  | next returned following ih =>
    obtain ⟨earlier, turn, rfl, same⟩ := ih ended
    exact ⟨_ :: earlier, turn, rfl, same⟩
  | stopped listeners failed => exact ⟨[], _, rfl, rfl⟩

/-- Changes lead from turn to turn. -/
theorem reaches (taken : HostTurns call turnAway world event listeners turns outcome)
    (steady : Caller.Keeps .reaching call)
    (turning : ∀ player reason, (turnAway player reason).Keeps .reaching) :
    ∀ turn ∈ turns, world.Reaches turn.before := by
  induction taken with
  | done world event => simp
  | next returned following ih =>
    have first := (Action.keeps_hand steady turning _ _).left returned
    exact List.forall_mem_cons.mpr ⟨.refl _, fun turn member => first.trans (ih turn member)⟩
  | stopped listeners failed => exact List.forall_mem_singleton.mpr (.refl _)

/-- Each listener finds the event that was fired, as those before it have left it. -/
theorem found {depth : Nat}
    (taken : HostTurns (callWithin depth) turnAway world event listeners turns outcome) :
    ∀ turn ∈ turns, event.Edited turn.found := by
  induction taken with
  | done world event => simp
  | next returned following ih =>
    have first := Action.hand_edited _ depth returned
    exact List.forall_mem_cons.mpr ⟨.same _, fun turn member => first.trans (ih turn member)⟩
  | stopped listeners failed => exact List.forall_mem_singleton.mpr (.same _)

end HostTurns

/-! ## Panics -/

/-- Somewhere on the way from a world on, a native listener of the host was called, and
panicked. -/
def NativePanic (call : Caller Memory) (world : World Memory) (payload : Payload) : Prop :=
  ∃ (earlier between : World Memory) (listener : Listener) (code : CodeId) (event : HostEvent),
    world.Reaches earlier ∧ listener ∈ earlier.state.host.registry.listenersOf event.kind ∧
      listener.hearer = .code code ∧ earlier.Reaches between ∧
      ((call code .hearHost () event).run between).1.ending = .error (.panic payload)

theorem NativePanic.before {call : Caller Memory} {world later : World Memory} {payload : Payload}
    (reaches : world.Reaches later) (panicked : NativePanic call later payload) :
    NativePanic call world payload := by
  obtain ⟨earlier, between, listener, code, event, began, rest⟩ := panicked
  exact ⟨earlier, between, listener, code, event, reaches.trans began, rest⟩

namespace Action
variable {call : Caller Memory} {turnAway : PlayerId → String → Action Memory Unit}
  {world : World Memory} {payload : Payload}

/-- No panic comes out of a dispatch. -/
theorem dispatch_calm (adapter : AdapterId) (event : Event) :
    ((dispatch call adapter event).on world).1 ≠ .error (.panic payload) := by
  obtain ⟨turns, final, edited, -, delivered⟩ := deliver_turns call
    ((world.state.bus adapter).listeners event.kind) event
    (world.alter (·.note (.dispatched adapter event)))
  exact delivered.no_panic payload

/-- Settling an event panics only if turning someone away does. -/
theorem settle_panics {adapter : AdapterId} {event : HostEvent} {outcome : Event}
    (panicked : ((settle turnAway adapter event outcome).on world).1 = .error (.panic payload)) :
    ∃ player reason between, world.Reaches between ∧
      ((turnAway player reason).on between).1 = .error (.panic payload) := by
  have turned (between : World Memory) (reaches : world.Reaches between)
      (panicked : ((do
        match outcome.refusal? with
        | some (player, reason) => turnAway player reason
        | none => pure ()
        return event.reconciled outcome : Action Memory HostEvent).on between).1 =
          .error (.panic payload)) :
      ∃ player reason between, world.Reaches between ∧
        ((turnAway player reason).on between).1 = .error (.panic payload) := by
    split at panicked
    · obtain within | ⟨_, _, -, finished⟩ := error_of_bind panicked
      · exact ⟨_, _, between, reaches, within⟩
      · cases finished
    · cases panicked
  unfold settle at panicked
  rw [on_bind_ok (on_see ..)] at panicked
  dsimp only at panicked
  split at panicked
  · rw [on_bind_ok (on_log ..)] at panicked
    exact turned _ (.alter (State.changed _ (.log _))) panicked
  · exact turned world (.refl world) panicked

/-- A panic in an adapter's turn comes from turning someone away. -/
theorem pass_panics (steady : Caller.Keeps .reaching call) {adapter : AdapterId} {event : HostEvent}
    (panicked : ((pass call turnAway adapter event).on world).1 = .error (.panic payload)) :
    ∃ player reason between, world.Reaches between ∧
      ((turnAway player reason).on between).1 = .error (.panic payload) := by
  cases unifies : event.unified world.state.host.kind with
  | error failure =>
    unfold pass at panicked
    rw [on_bind_ok (on_see ..), unifies] at panicked
    cases panicked
  | ok unified =>
    rw [on_pass call turnAway unifies] at panicked
    obtain within | ⟨outcome, between, ran, after⟩ := error_of_bind panicked
    · exact absurd within (dispatch_calm adapter unified)
    · have told := (keeps_dispatch steady adapter unified).left ran
      obtain ⟨player, reason, later, reaches, turned⟩ := settle_panics after
      exact ⟨player, reason, later, told.trans reaches, turned⟩

theorem demand_panics {code : CodeId} {role : Role} {input : role.Input} {subject : role.Subject}
    (panicked : ((demand call code role input subject).on world).1 = .error (.panic payload)) :
    ((call code role input subject).run
      (world.alter (·.note (.called code role input)))).1.ending = .error (.panic payload) := by
  rw [on_demand] at panicked
  generalize (call code role input subject).run _ = called at panicked ⊢
  rcases called with ⟨⟨stop | _, _⟩, _⟩
  · exact congrArg _ (Except.error.inj panicked)
  · cases panicked

/-- A panic in a firing comes from a native listener, in the firing itself or where someone
is turned away. -/
theorem fireWith_panics (depth : Nat) {event : HostEvent}
    (turning : ∀ player reason, (turnAway player reason).Keeps .reaching)
    (blames : ∀ player reason between,
      ((turnAway player reason).on between).1 = .error (.panic payload) →
        NativePanic (callWithin depth) between payload)
    (panicked : ((fireWith (callWithin depth) turnAway event).on world).1 =
      .error (.panic payload)) : NativePanic (callWithin depth) world payload := by
  have begun : world.Reaches (world.alter (·.note (.fired event))) :=
    .alter (State.changed _ (.note _))
  unfold fireWith at panicked
  rw [on_bind_ok (on_note ..), on_bind_ok (on_see ..)] at panicked
  obtain ⟨turns, taken⟩ := handAll_turns (callWithin depth) turnAway
    (world.state.host.registry.listenersOf event.kind) event (world.alter (·.note (.fired event)))
  obtain ⟨earlier, turn, last, same⟩ := taken.stopped_by panicked
  have member : turn ∈ turns := by simp [last]
  have failed : turn.outcome.1 = .error (.panic payload) := same ▸ panicked
  have reaches := taken.reaches (callWithin_reaches depth) turning turn member
  have listens : turn.listener ∈ world.state.host.registry.listenersOf event.kind :=
    taken.listeners_eq.1.subset (List.mem_map_of_mem member)
  rw [← taken.made turn member] at failed
  unfold hand at failed
  split at failed
  · next code hears =>
    obtain within | ⟨_, _, -, finished⟩ := error_of_bind failed
    · refine ⟨_, _, turn.listener, code, turn.found, begun, ?_, hears, reaches.trans ?_,
        demand_panics within⟩
      · rwa [(taken.found turn member).kind]
      · exact .alter (State.changed _ (.note _))
    · cases finished
  · obtain ⟨player, reason, between, passed, turned⟩ :=
      pass_panics (callWithin_reaches depth) failed
    exact (blames player reason between turned).before (begun.trans (reaches.trans passed))

/-- Nobody is turned away by a quit, so there a panic is a native listener's. -/
theorem disconnect_panics (depth : Nat) {player : PlayerId} {reason : String}
    (panicked : ((disconnect (callWithin depth) player reason).on world).1 =
      .error (.panic payload)) : NativePanic (callWithin depth) world payload := by
  have dropped : world.Reaches (world.alter (·.change (.drop player reason))) :=
    .alter (State.changed _ _)
  unfold disconnect drop at panicked
  rw [updateHost, on_bind_ok (on_update ..)] at panicked
  refine .before dropped ?_
  unfold remove at panicked
  rw [on_bind_ok (on_see ..)] at panicked
  split at panicked
  · have removed (between : World Memory) :
        between.Reaches (between.alter (·.change (.remove player))) := .alter (State.changed _ _)
    rw [updateHost, on_bind_ok (on_update ..)] at panicked
    refine .before (removed _) ?_
    obtain fired | ⟨_, _, -, finished⟩ := error_of_bind panicked
    · exact fireWith_panics depth (fun _ _ => keeps_pure ()) (fun _ _ _ => nofun) fired
    · cases finished
  · cases panicked

end Action

/-! ## All or nothing, and once -/

/-- Both ways in which the host deals with players that plugins refuse come to changes, and
panic only if a native listener does. -/
theorem Action.turnAway_cases (depth : Nat)
    {turnAway : PlayerId → String → Action Memory Unit}
    (real : turnAway = Action.disconnect (callWithin depth) ∨ turnAway = fun _ _ => pure ()) :
    (∀ player reason, (turnAway player reason).Keeps .reaching) ∧
      ∀ payload player reason between,
        ((turnAway player reason).on between).1 = .error (.panic payload) →
          NativePanic (callWithin depth) between payload := by
  obtain rfl | rfl := real
  · exact ⟨keeps_disconnect (callWithin_reaches depth), fun _ _ _ _ => disconnect_panics depth⟩
  · exact ⟨fun _ _ => keeps_pure (), fun _ _ _ _ => nofun⟩

theorem World.Reaches.kind {world later : World Memory} (reaches : world.Reaches later) :
    later.state.host.kind = world.state.host.kind :=
  reaches.1.keeps (fun later => later.host.kind = world.state.host.kind)
    (fun state change _ same => (State.kind_change state change).trans same) rfl

/-- At every point of a run in which nobody takes listeners from adapters, an adapter has one
listener for each of its kinds of events if it is attached, and none otherwise. To attach or
detach it twice is to do it once; if it is refused, nothing has changed and it is not attached;
detaching it removes its own listeners, and no others. When an event is fired, each attached
adapter that listens to its kind has one turn among all who hear it, in which it dispatches the
event once, in the form that plugins see, with what the listeners before have left of it. The
history gains one note of that, before the listeners on the adapter's bus are called. All
get their turns, unless the world's limits or a native listener that panics stop the firing. -/
theorem listeners_are_whole_and_heard_once (depth : Nat) {kind : Host.Kind}
    {surroundings : Surroundings} {world : World Memory}
    (run : (State.initial kind surroundings).RunsBy State.LeavesListeners world.state) :
    (∀ id,
      ((world.state.adapter id).isAttached = true →
        (world.state.heardBy id).map (·.kind) = Adapter.kinds world.state.host.kind) ∧
      ((world.state.adapter id).isAttached = false → world.state.heardBy id = []) ∧
      (world.state.heardBy id).map (·.id) = (world.state.adapter id).listeners ∧
      ∀ listener ∈ world.state.heardBy id, listener.owner = Adapter.owner) ∧
    (∀ id,
      (world.state.attach id).1.attach id = world.state.attach id ∧
      (world.state.detach id).detach id = world.state.detach id ∧
      ((world.state.attach id).2 = .ok () →
        ((world.state.attach id).1.adapter id).isAttached = true) ∧
      ((world.state.attach id).2 ≠ .ok () →
        (world.state.attach id).1 = world.state ∧ (world.state.adapter id).isAttached = false) ∧
      ((world.state.detach id).adapter id).isAttached = false ∧
      (world.state.detach id).host.registry.listeners =
        world.state.host.registry.listeners.filter (·.hearer ≠ .adapter id)) ∧
    ∀ turnAway : PlayerId → String → Action Memory Unit,
      turnAway = Action.disconnect (callWithin depth) ∨ turnAway = (fun _ _ => pure ()) →
      ∀ event : HostEvent,
        let heard := world.state.host.registry.listenersOf event.kind
        let ran := (Action.fireWith (callWithin depth) turnAway event).on world
        (∀ id, heard.countP (·.hearer = .adapter id) =
          if (world.state.adapter id).isAttached = true ∧
            event.kind ∈ Adapter.kinds world.state.host.kind then 1 else 0) ∧
        ∃ turns, HostTurns (callWithin depth) turnAway (world.alter (·.note (.fired event))) event
            heard turns ran ∧
          (turns.map (·.listener) = heard ∨ ∃ stop, ran.1 = .error stop ∧
            ∀ payload, stop = .panic payload → NativePanic (callWithin depth) world payload) ∧
          ∀ turn ∈ turns, ∀ id, turn.listener.hearer = .adapter id → event.Edited turn.found ∧
            ∃ unified, turn.found.unified world.state.host.kind = .ok unified ∧
              unified.kind = event.kind.unified ∧
              turn.outcome = (Action.dispatch (callWithin depth) id unified >>=
                Action.settle turnAway id turn.found).on turn.before ∧
              turn.outcome = (Action.deliver (callWithin depth)
                ((turn.before.state.bus id).listeners unified.kind) unified >>=
                  Action.settle turnAway id turn.found).on
                    (turn.before.alter (·.note (.dispatched id unified))) ∧
              ∃ later, turn.outcome.2.state.history =
                turn.before.state.history ++ .dispatched id unified :: later := by
  have reachable : world.state.Reachable := ⟨kind, surroundings, run.reaches⟩
  have owned := reachable.owned
  have whole := run.whole
  refine ⟨fun id => ⟨(whole.all_or_none id).1, (whole.all_or_none id).2, whole.numbers id,
    whole.owner id⟩, fun id => ?_, fun turnAway real event => ⟨fun id => ?_, ?_⟩⟩
  · refine ⟨world.state.attach_again id, world.state.detach_again id, ?_, ?_,
      world.state.isAttached_detach id, owned.detach_listeners id⟩
    · exact fun accepted => ((world.state.attach_outcome id).resolve_right
        fun refused => refused.1 accepted).2
    · exact fun refused => ((world.state.attach_outcome id).resolve_left
        fun accepted => refused accepted.1).2
  · exact whole.heard_once id event.kind
  · obtain ⟨turning, blames⟩ := Action.turnAway_cases depth real
    obtain ⟨turns, taken⟩ := Action.handAll_turns (callWithin depth) turnAway
      (world.state.host.registry.listenersOf event.kind) event
      (world.alter (·.note (.fired event)))
    refine ⟨turns, taken, ?_, fun turn member id hears => ⟨taken.found turn member, ?_⟩⟩
    · cases ended : ((Action.fireWith (callWithin depth) turnAway event).on world).1 with
      | ok answer => exact .inl (taken.listeners_eq.2 answer ended)
      | error stop =>
        refine .inr ⟨stop, rfl, ?_⟩
        rintro payload rfl
        exact Action.fireWith_panics depth turning (blames payload) ended
    · have among : turn.listener ∈ world.state.host.registry.listenersOf event.kind :=
        taken.listeners_eq.1.subset (List.mem_map_of_mem member)
      have once := whole.heard_once id event.kind
      have some : 0 < (world.state.host.registry.listenersOf event.kind).countP
          (·.hearer = .adapter id) := List.countP_pos_iff.mpr ⟨_, among, decide_eq_true hears⟩
      have heard : event.kind ∈ Adapter.kinds world.state.host.kind := by
        by_contra unheard
        simp [once, unheard] at some
      have found := (taken.found turn member).kind
      obtain ⟨unified, unifies, kind, -⟩ := HostEvent.unified_of_heard (found ▸ heard)
      have reaches := taken.reaches (callWithin_reaches depth) turning turn member
      have passed : turn.outcome = (Action.dispatch (callWithin depth) id unified >>=
          Action.settle turnAway id turn.found).on turn.before := by
        rw [← taken.made turn member, Action.hand, hears]
        exact Action.on_pass _ _ (reaches.kind ▸ unifies)
      refine ⟨unified, unifies, found ▸ kind, passed,
        passed.trans (Action.on_dispatch_bind _ id unified _ turn.before), ?_⟩
      rw [passed]
      exact Action.dispatch_noted _ (callWithin_reaches depth) turning id turn.found unified _

/-- A listener of the host's own minds the language of what is said before two adapters hear
of it, a third one is too late, and someone else's listeners come and go. -/
def plazaDay : List Change :=
  [.newAdapter "memory" "Console" false, .newAdapter "memory" "Console" false,
    .newAdapter "memory" "Console" false, .listen "minder" .chat 0, .attach 0, .attach 1,
    .listen "guest" .join 0, .unlistenOwner "guest", .detach 0, .attach 0, .attach 0, .close,
    .attach 2]

def plaza : World Unit where
  state := plazaDay.foldl State.change (.initial .server ⟨.empty, [], "/", "/"⟩)
  memory := ()
  shelf := [.hostListener (.edit (.message "***") fun _ => .finish ())]

/-- The third adapter hears nothing of what is said, and it stays so. -/
theorem plaza_hears_once :
    (State.initial .server ⟨.empty, [], "/", "/"⟩).Allows State.LeavesListeners plazaDay ∧
      (plaza.state.attach 2).1 = plaza.state ∧
      (plaza.state.host.registry.listenersOf .chat).countP (·.hearer = .adapter 1) = 1 ∧
      (plaza.state.host.registry.listenersOf .chat).countP (·.hearer = .adapter 2) = 0 := by
  have allows : (State.initial .server ⟨.empty, [], "/", "/"⟩).Allows State.LeavesListeners
      plazaDay := by
    decide +kernel
  have run : (State.initial .server ⟨.empty, [], "/", "/"⟩).RunsBy State.LeavesListeners
      plaza.state := .of_changes plazaDay allows
  obtain ⟨-, single, fired⟩ := listeners_are_whole_and_heard_once 2 run
  obtain ⟨once, -⟩ := fired (fun _ _ => pure ()) (.inr rfl) (.chat 0 "hi" false)
  refine ⟨allows, ((single 2).2.2.2.1 (by decide +kernel)).1, (once 1).trans ?_,
    (once 2).trans ?_⟩
  · decide +kernel
  · decide +kernel

/-- Both others dispatch what the minder has left of it. -/
example :
    ((Action.fire (callWithin 2) (.chat 0 "hi" false)).on plaza).2.state.history.filterMap
      (fun | .dispatched adapter event => some (adapter, event) | _ => none) =
        [(1, .chat ⟨0, "***", false, true, true⟩), (0, .chat ⟨0, "***", false, true, true⟩)] := by
  decide +kernel

end PluginBridge
