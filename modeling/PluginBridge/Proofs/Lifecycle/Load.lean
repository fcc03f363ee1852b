import PluginBridge.Proofs.Lifecycle.Context
import PluginBridge.Proofs.State.Origins
import PluginBridge.Proofs.World.Progress
import PluginBridge.Script

/-! Loading a plugin that cannot be loaded. Without settings or a platform the host is
not touched. A constructor that fails has had the host at its disposal: what it has
registered on its bus is out of reach, because no event gets there, but a command
that it has registered stays with the host and runs for whoever types it. -/
namespace PluginBridge
open Plugin
variable {Memory : Type}

/-! ## The course of a load -/

/-- How the settings of a plugin are loaded. -/
def LoadOrder.loaderIn (order : LoadOrder) (surroundings : Surroundings) : Settings.Loader :=
  order.loader.getD
    (Action.standardLoader surroundings (order.data.dataFolder <|> order.dataFolder))

/-- What a plugin is constructed with: its data with its folder settled. -/
def LoadOrder.settled (order : LoadOrder) : LoadOrder :=
  { order with
    data := { order.data with dataFolder := order.data.dataFolder <|> order.dataFolder } }

/-- The world in which a plugin's constructor is called. -/
def World.constructing (world : World Memory) (order : LoadOrder) (settings : Settings.Loaded) :
    World Memory :=
  world.alter (·.change (.construct Action.platformName order.data settings order.code))

/-- The world once a constructor has ended so, with a record of it. -/
def World.constructed (world : World Memory) (core : CoreId) (record : Log.Record) :
    Except Payload (Except String Unit) → World Memory
  | .ok (.ok ()) => (world.alter (·.log record)).alter (·.change (.setStage core .loaded))
  | _ => world.alter (·.log record)

theorem World.host_constructed (world : World Memory) (core : CoreId) (record : Log.Record)
    (ending : Except Payload (Except String Unit)) :
    (world.constructed core record ending).state.host = world.state.host := by
  rcases ending with payload | message | _ <;> rfl

/-- The world with what loading the settings has logged. -/
def World.loading (world : World Memory) (order : LoadOrder) : World Memory :=
  world.alter (·.logAll
    ((order.loaderIn world.state.surroundings).load world.state.surroundings).1)

/-- The world with what is logged about these settings as well. -/
def World.loaded (world : World Memory) (order : LoadOrder) (settings : Settings.Loaded) :
    World Memory :=
  (world.loading order).alter (·.logAll (Log.setupWarnings settings.schema.logging))

namespace Action
variable (call : Caller Memory)

/-- What loading comes to when the constructor has ended so. -/
def constructVerdict (order : LoadOrder) (core : CoreId) :
    Except Payload (Except String Unit) → Except LoadFailure CoreId
  | .ok (.ok ()) => .ok core
  | .ok (.error message) => .error (.construction order.data.id message)
  | .error payload => .error (.panicked order.data.id payload.message)

/-- After the constructor has returned, only the log and the stage change. -/
theorem on_construct (order : LoadOrder) (settings : Settings.Loaded) {world left : World Memory}
    {ending : Except Payload (Except String Unit)} {subject : Unit}
    (ran : (attempt call order.code (.hook .create) world.state.cores.length ()).on
      (world.constructing order settings) = (.ok (ending, subject), left)) :
    ∃ record, (construct call order settings).on world =
      (.ok (constructVerdict order world.state.cores.length ending),
        left.constructed world.state.cores.length record ending) := by
  unfold construct
  rw [on_bind_ok (on_answer ..), on_bind_ok (on_answer ..)]
  rcases ending with payload | message | _
  · exact ⟨_, on_bind_ok ran⟩
  · exact ⟨_, on_bind_ok ran⟩
  · exact ⟨_, on_bind_ok ran⟩

theorem on_construct_error (order : LoadOrder) (settings : Settings.Loaded)
    {world left : World Memory} {stop : Stop}
    (ran : (attempt call order.code (.hook .create) world.state.cores.length ()).on
      (world.constructing order settings) = (.error stop, left)) :
    (construct call order settings).on world = (.error stop, left) := by
  unfold construct
  rw [on_bind_ok (on_answer ..), on_bind_ok (on_answer ..)]
  exact on_bind_error ran

/-- A construction that comes to a verdict comes to that of its constructor. -/
theorem construct_verdict {order : LoadOrder} {settings : Settings.Loaded}
    {world after : World Memory} {result : Except LoadFailure CoreId}
    (done : (construct call order settings).on world = (.ok result, after)) :
    ∃ ending left, (attempt call order.code (.hook .create) world.state.cores.length ()).on
        (world.constructing order settings) = (.ok (ending, ()), left) ∧
      result = constructVerdict order world.state.cores.length ending ∧
      after.state.host = left.state.host := by
  cases ran : (attempt call order.code (.hook .create) world.state.cores.length ()).on
    (world.constructing order settings) with
  | mk called left =>
    rcases called with stop | ⟨ending, subject⟩
    · rw [on_construct_error call order settings ran] at done
      cases done
    · obtain ⟨record, same⟩ := on_construct call order settings ran
      rw [same] at done
      cases done
      exact ⟨ending, left, rfl, rfl, left.host_constructed ..⟩

/-- Loading ends before anything is constructed, or comes to the construction. -/
theorem on_load (order : LoadOrder) (world : World Memory) :
    (load call order).on world =
      match ((order.loaderIn world.state.surroundings).load world.state.surroundings).2 with
      | .error failure => (.ok (.error (.settings failure)), world.loading order)
      | .ok settings =>
        match order.missingPart with
        | some part => (.ok (.error (.platform platformName (.unavailable part))),
            world.loaded order settings)
        | none => (construct call order.settled settings).on (world.loaded order settings) := by
  unfold load
  rw [on_bind_ok (on_see ..)]
  dsimp only
  rw [on_bind_ok (on_update ..)]
  change Action.on (match ((order.loaderIn world.state.surroundings).load
    world.state.surroundings).2 with
    | .error failure => return .error (.settings failure)
    | .ok settings => do
      update (·.logAll (Log.setupWarnings settings.schema.logging))
      match order.missingPart with
      | some part => return .error (.platform platformName (.unavailable part))
      | none => construct call order.settled settings) (world.loading order) = _
  cases ((order.loaderIn world.state.surroundings).load world.state.surroundings).2 with
  | error failure => rfl
  | ok settings =>
    dsimp only
    rw [on_bind_ok (on_update ..)]
    cases order.missingPart <;> rfl

theorem on_load_unsettled {order : LoadOrder} {world : World Memory} {failure : Settings.Failure}
    (found : ((order.loaderIn world.state.surroundings).load world.state.surroundings).2 =
      .error failure) :
    (load call order).on world = (.ok (.error (.settings failure)), world.loading order) := by
  rw [on_load, found]

theorem on_load_settled {order : LoadOrder} {world : World Memory} {settings : Settings.Loaded}
    (found : ((order.loaderIn world.state.surroundings).load world.state.surroundings).2 =
      .ok settings) (whole : order.missingPart = none) :
    (load call order).on world =
      (construct call order.settled settings).on (world.loaded order settings) := by
  rw [on_load, found]
  simp only [whole]

/-- A load that fails has left the host as it was, or its constructor has failed and
left the host as it is. -/
theorem load_failed {order : LoadOrder} {world after : World Memory} {failure : LoadFailure}
    (failed : (load call order).on world = (.ok (.error failure), after)) :
    after.state.host = world.state.host ∨
      (∃ plugin reason, failure = .construction plugin reason ∨ failure = .panicked plugin reason) ∧
      ∃ settings ending left,
        ((order.loaderIn world.state.surroundings).load world.state.surroundings).2 =
          .ok settings ∧
        (attempt call order.code (.hook .create) world.state.cores.length ()).on
          ((world.loaded order settings).constructing order.settled settings) =
            (.ok (ending, ()), left) ∧
        after.state.host = left.state.host := by
  rw [on_load] at failed
  split at failed
  · cases failed
    exact .inl rfl
  · next settings found =>
    split at failed
    · cases failed
      exact .inl rfl
    · obtain ⟨ending, left, ran, verdict, host⟩ := construct_verdict call failed
      refine .inr ⟨?_, settings, ending, left, found, ran, host⟩
      rcases ending with payload | message | _
      · cases verdict
        exact ⟨_, _, .inr rfl⟩
      · cases verdict
        exact ⟨_, _, .inl rfl⟩
      · cases verdict

/-- Whatever settings are loaded for it, and whatever else comes to run, all that a
plugin's constructor makes of what is registered with the host is commands of its
own. -/
def ConstructorSpares (order : LoadOrder) (world : World Memory) : Prop :=
  ∀ settings ending left,
    ((order.loaderIn world.state.surroundings).load world.state.surroundings).2 = .ok settings →
    (attempt call order.code (.hook .create) world.state.cores.length ()).on
      ((world.loaded order settings).constructing order.settled settings) =
        (.ok (ending, ()), left) →
    ((world.loaded order settings).constructing order.settled settings).state.ReachesBy
      (Change.Spares world.state.adapters.length) left.state

/-- The constructor keeps to the context of its plugin. -/
def ConstructorInContext (depth : Nat) (order : LoadOrder) (world : World Memory) : Prop :=
  ∃ code, world.shelf[order.code]? = some code ∧ ∀ settings,
    ((order.loaderIn world.state.surroundings).load world.state.surroundings).2 = .ok settings →
    ∀ request ∈ (code (.hook .create) world.state.cores.length).requests (callWithin depth) ()
      (((world.loaded order settings).constructing order.settled settings).alter
        (·.note (.called order.code (.hook .create) world.state.cores.length))),
      request.InContext world.state.adapters.length order.data.id = true

variable {depth : Nat} {order : LoadOrder} {world : World Memory}

/-- Such a constructor returns, in good order or not. -/
theorem ConstructorInContext.returns (context : ConstructorInContext depth order world)
    {settings : Settings.Loaded}
    (found : ((order.loaderIn world.state.surroundings).load world.state.surroundings).2 =
      .ok settings) :
    ∃ ending left, (attempt (callWithin (depth + 1)) order.code (.hook .create)
        world.state.cores.length ()).on
          ((world.loaded order settings).constructing order.settled settings) =
            (.ok (ending, ()), left) ∧
      ((world.loaded order settings).constructing order.settled settings).state.ReachesBy
        (Change.OwnTo world.state.adapters.length order.data.id) left.state := by
  obtain ⟨code, written, within⟩ := context
  obtain ⟨ending, subject, left, called, reaches⟩ := attempt_inContext depth (.hook .create)
    world.state.cores.length () ((world.loaded order settings).constructing order.settled settings)
    written (within settings found)
  exact ⟨ending, left, called, reaches⟩

theorem ConstructorInContext.spares (context : ConstructorInContext depth order world) :
    ConstructorSpares (callWithin (depth + 1)) order world := by
  intro settings ending left found ran
  obtain ⟨_, _, called, reaches⟩ := context.returns found
  rw [called] at ran
  cases ran
  exact reaches.mono fun _ own => own.spares

/-- Loading a plugin with such a constructor returns. -/
theorem ConstructorInContext.load_returns (context : ConstructorInContext depth order world) :
    ∃ result after, (load (callWithin (depth + 1)) order).on world = (.ok result, after) := by
  rw [on_load]
  split
  · exact ⟨_, _, rfl⟩
  · next settings found =>
    split
    · exact ⟨_, _, rfl⟩
    · obtain ⟨ending, left, called, -⟩ := context.returns found
      obtain ⟨record, done⟩ :=
        on_construct (callWithin (depth + 1)) order.settled settings called
      exact ⟨_, _, done⟩

end Action

/-! ## What a failed load leaves -/

namespace State
variable {state later : State}

/-- Where a plugin has just been constructed, changes that spare the host leave its
listeners as they were, and add at most commands of the plugin. The new adapter held no names,
so that nobody else can have taken one. -/
theorem Owned.newcomer (owned : state.Owned) {platform : String} {data : Data}
    {settings : Settings.Loaded} {code : CodeId}
    (reaches : (state.change (.construct platform data settings code)).ReachesBy
      (Change.Spares state.adapters.length) later) :
    later.Owned ∧ later.host.registry.listeners = state.host.registry.listeners ∧
      (∀ listener ∈ later.host.registry.listeners,
        listener.hearer ≠ .adapter state.adapters.length) ∧
      later.host.registry.commands.filter (!·.runsFor state.adapters.length) =
        state.host.registry.commands := by
  have constructed := owned.change (.construct platform data settings code)
  have absent : state.hasAdapter state.adapters.length = false := by simp [hasAdapter]
  obtain ⟨silent, idle⟩ := owned.absent absent
  have unnamed : ((state.change (.construct platform data settings code)).adapter
      state.adapters.length).commands = [] := by
    refine (view_addAdapter Adapter.commands (fun _ _ _ => rfl) platform ..).trans ?_
    rw [adapter_of_absent absent]
    rfl
  have unclaimed : (state.change (.construct platform data settings code)).Unclaimed
      state.adapters.length := by
    intro name holds
    rw [unnamed] at holds
    cases holds
  have same := unclaimed.spares_reaches constructed reaches
  have still := reaches.silent id silent
  refine ⟨?_, ?_, still, ?_⟩
  · exact reaches.keeps Owned (fun _ change _ owned => owned.change change) constructed
  · have kept := same.listeners
    rwa [List.filter_eq_self.mpr fun listener member => by simpa using still listener member,
      List.filter_eq_self.mpr fun listener member => by simpa using silent listener member] at kept
  · rw [same.commands]
    exact List.filter_eq_self.mpr fun offer member => by simpa using idle offer member

end State

/-- Commands of which those of one adapter may be new are as they were exactly if no
label runs one of them, for a command answers to its own name. -/
theorem Host.Registry.Sound.commands_eq_iff {registry : Host.Registry} (sound : registry.Sound)
    {adapter : AdapterId} {commands : List Host.Offer}
    (others : registry.commands.filter (!·.runsFor adapter) = commands) :
    registry.commands = commands ↔
      ∀ label offer, registry.command? label = some offer → offer.runsFor adapter = false := by
  constructor
  · intro same label offer found
    have member : offer ∈ registry.commands := List.mem_of_find?_eq_some found
    rw [same, ← others] at member
    simpa using (List.mem_filter.mp member).2
  · intro idle
    rw [← others, eq_comm]
    refine List.filter_eq_self.mpr fun offer member => ?_
    cases found : registry.command? offer.name with
    | none =>
      have silent := List.find?_eq_none.mp found offer member
      simp at silent
    | some other =>
      have answers : other.answersTo offer.name = true := by simpa using List.find?_some found
      obtain rfl := sound.unique (List.mem_of_find?_eq_some found) member answers
        offer.answersTo_name
      simp [idle _ _ found]

/-- A load that fails for its settings or its platform does not touch the host. One
that fails in the constructor leaves the host's listeners as they were, no event
reaches the plugin, and nothing is taken away from the host's commands. But what the
constructor has registered nobody removes: the commands are as they were exactly if
no label runs a command of the plugin, that is, if the constructor has left none.
A constructor that keeps to the plugin's context spares the host all else, and
loading always returns then. -/
theorem failed_load_leaves_own_commands (depth : Nat) (order : LoadOrder) (world : World Memory)
    (reached : world.state.Reachable) :
    (Action.ConstructorInContext depth order world →
      Action.ConstructorSpares (callWithin (depth + 1)) order world ∧
      ∃ result after, (Action.load (callWithin (depth + 1)) order).on world =
        (.ok result, after)) ∧
    ∀ failure after, (Action.load (callWithin (depth + 1)) order).on world =
        (.ok (.error failure), after) →
      ((∀ plugin reason, failure ≠ .construction plugin reason ∧
          failure ≠ .panicked plugin reason) →
        after.state.host = world.state.host) ∧
      (Action.ConstructorSpares (callWithin (depth + 1)) order world →
        after.state.host.registry.listeners = world.state.host.registry.listeners ∧
        (∀ listener ∈ after.state.host.registry.listeners,
          listener.hearer ≠ .adapter world.state.adapters.length) ∧
        after.state.host.registry.commands.filter (!·.runsFor world.state.adapters.length) =
          world.state.host.registry.commands ∧
        (after.state.host.registry.commands = world.state.host.registry.commands ↔
          ∀ label offer, after.state.host.registry.command? label = some offer →
            offer.runsFor world.state.adapters.length = false)) := by
  refine ⟨fun context => ⟨context.spares, context.load_returns⟩, fun failure after failed => ?_⟩
  have absent : world.state.hasAdapter world.state.adapters.length = false := by
    simp [State.hasAdapter]
  obtain ⟨silent, idle⟩ := reached.owned.absent absent
  have others : world.state.host.registry.commands.filter
      (!·.runsFor world.state.adapters.length) = world.state.host.registry.commands :=
    List.filter_eq_self.mpr fun offer member => by simpa using idle offer member
  obtain same | ⟨⟨plugin, reason, inConstructor⟩, settings, ending, left, found, ran, host⟩ :=
    Action.load_failed _ failed
  · rw [same]
    exact ⟨fun _ => rfl, fun _ =>
      ⟨rfl, silent, others, reached.owned.sound.commands_eq_iff others⟩⟩
  · refine ⟨fun other => ?_, fun spares => ?_⟩
    · obtain constructed | panicked := inConstructor
      · exact absurd constructed (other plugin reason).1
      · exact absurd panicked (other plugin reason).2
    · have loadedOwned : (world.loaded order settings).state.Owned :=
        (reached.reaches (.trans (State.logAll_reaches (fun _ => trivial) _ _)
          (State.logAll_reaches (fun _ => trivial) _ _))).owned
      obtain ⟨leftOwned, same, still, kept⟩ :=
        loadedOwned.newcomer (spares settings ending left found ran)
      rw [host]
      exact ⟨same, still, kept, leftOwned.sound.commands_eq_iff kept⟩

/-! ## A command that stays -/

/-- A constructor that registers a command before it fails. -/
def hastyCommand : Command := ⟨"greet", ["hi"], none, none, none, [], 1, none⟩

def hastyCode : Code Unit :=
  .plugin fun _ _ => .ask (.register 0 hastyCommand) fun _ => .finish (.error "no greeting")

def hastyOrder : LoadOrder where
  data := ⟨"greeter", "Greeter", "1.0.0", [], none, none, [], none⟩
  code := 0
  dataFolder := none
  loader := some ⟨[], [], none, none⟩
  missingPart := none

def hastyWorld : World Unit where
  state := .initial .server ⟨.empty, [], "/", "/"⟩
  memory := ()
  shelf := [hastyCode, .handler fun invocation =>
    .ask (.tell invocation.sender "hello") fun _ => .finish (.ok ())]

theorem failed_load_keeps_listeners :
    hastyWorld.state.Reachable ∧ Action.ConstructorInContext 0 hastyOrder hastyWorld ∧
      ∃ failure after, (Action.load (callWithin 1) hastyOrder).on hastyWorld =
          (.ok (.error failure), after) ∧
        after.state.host.registry.listeners = hastyWorld.state.host.registry.listeners := by
  have reached : hastyWorld.state.Reachable := ⟨.server, ⟨.empty, [], "/", "/"⟩, .refl _⟩
  have context : Action.ConstructorInContext 0 hastyOrder hastyWorld := by
    refine ⟨hastyCode, rfl, fun settings _ request member => ?_⟩
    change request ∈ [Request.register 0 hastyCommand] at member
    rw [List.mem_singleton.mp member]
    rfl
  have failed : (Action.load (callWithin 1) hastyOrder).on hastyWorld =
      (.ok (.error (.construction "greeter" "no greeting")),
        ((Action.load (callWithin 1) hastyOrder).on hastyWorld).2) :=
    Prod.ext (by decide +kernel) rfl
  obtain ⟨returns, failing⟩ := failed_load_leaves_own_commands 0 hastyOrder hastyWorld reached
  obtain ⟨spares, -⟩ := returns context
  exact ⟨reached, context, _, _, failed, ((failing _ _ failed).2 spares).1⟩

/-- The plugin could not be loaded, but its command is there and runs its code. -/
theorem failed_load_leaves_command_behind :
    let (result, after) := (Action.load (callWithin 1) hastyOrder).on hastyWorld
    result = .ok (.error (.construction "greeter" "no greeting")) ∧
      after.state.host.registry.commands ≠ hastyWorld.state.host.registry.commands ∧
      ((Action.runLine (callWithin 1) .console "/greet").on after).2.state.host.console =
        ["hello"] := by
  decide +kernel

end PluginBridge
