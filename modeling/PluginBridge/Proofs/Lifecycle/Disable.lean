import PluginBridge.Proofs.Lifecycle.Context
import PluginBridge.Proofs.Lifecycle.Turns
import PluginBridge.Proofs.State.Cores
import PluginBridge.Proofs.State.Origins
import PluginBridge.Proofs.World.Progress
import PluginBridge.Script

/-! Disabling a plugin. Whatever its hook does and however the hook ends, nothing of
the plugin stays registered, and what is registered for others stays as the hook has
left it: exactly as it was before, if the hook has kept to the plugin's context. -/
namespace PluginBridge
open Plugin
variable {Memory : Type}

/-! ## What is left of a plugin -/

namespace State
variable {state : State} {adapter : AdapterId} {owner : String}

/-- Nothing is registered for a plugin: no listener and no command of its adapter,
and no listener of its name on its bus. -/
structure Cleared (state : State) (adapter : AdapterId) (owner : String) : Prop where
  listeners : ∀ listener ∈ state.host.registry.listeners, listener.hearer ≠ .adapter adapter
  commands : ∀ offer ∈ state.host.registry.commands, ∀ command,
    offer.executor ≠ .adapter adapter command
  names : (state.adapter adapter).commands = []
  bus : ∀ subscription ∈ (state.bus adapter).subscriptions, subscription.owner ≠ owner

/-- Whatever is registered for a plugin in a later state has been registered by one
of the changes since. -/
structure OnlySince (changes : List Change) (adapter : AdapterId) (owner : String)
    (later : State) : Prop where
  listeners : ∀ listener ∈ later.host.registry.listeners, listener.hearer = .adapter adapter →
    .attach adapter ∈ changes
  commands : ∀ offer ∈ later.host.registry.commands, ∀ command,
    offer.executor = .adapter adapter command → .register adapter command ∈ changes
  bus : ∀ subscription ∈ (later.bus adapter).subscriptions, subscription.owner = owner →
    .subscribe adapter subscription.kind owner subscription.priority subscription.code ∈ changes

theorem Cleared.onlySince (cleared : state.Cleared adapter owner) (changes : List Change) :
    OnlySince changes adapter owner (changes.foldl change state) :=
  ⟨listener_since changes cleared.listeners, offer_since changes cleared.commands,
    subscription_since changes cleared.bus⟩

/-- What is cleared is told from the host and the adapters. -/
theorem Cleared.of_same {later : State} (cleared : state.Cleared adapter owner)
    (host : later.host = state.host) (adapters : later.adapters = state.adapters) :
    later.Cleared adapter owner := by
  have same : later.adapter = state.adapter := funext fun id => by simp [State.adapter, adapters]
  refine ⟨host ▸ cleared.listeners, host ▸ cleared.commands, same ▸ cleared.names, ?_⟩
  rw [State.bus, same]
  exact cleared.bus

theorem bus_unsubscribeOwner (state : State) (adapter : AdapterId) (owner : String) :
    ∀ subscription ∈ ((state.unsubscribeOwner adapter owner).1.bus adapter).subscriptions,
      subscription.owner ≠ owner := by
  intro subscription member
  cases there : state.hasAdapter adapter with
  | true =>
    rw [bus, State.unsubscribeOwner, adapter_log, adapter_updateAdapter_self there] at member
    simpa using (List.mem_filter.mp member).2
  | false =>
    have absent : (state.unsubscribeOwner adapter owner).1.hasAdapter adapter = false := by
      simpa [State.unsubscribeOwner, hasAdapter, updateAdapter, State.log] using there
    rw [bus, adapter_of_absent absent] at member
    cases member

/-- Removing the first name that an adapter holds leaves it with the others. -/
theorem commands_unregister_first {name : String} {rest : List String}
    (held : (state.adapter adapter).commands = name :: rest) :
    ((state.unregister adapter name).1.adapter adapter).commands = rest := by
  have first : (name :: rest).find? (Text.sameLabel · name) = some name := by simp
  obtain ⟨missing, -⟩ | ⟨known, there, found, removed⟩ := unregister_cases state adapter name
  · rw [held, first] at missing
    cases missing
  · rw [held, first] at found
    cases found
    rw [removed, adapter_updateAdapter_self (by exact there)]
    simp [held]

/-- Removing the names that an adapter holds, one by one, leaves it with none. -/
theorem commands_unregisterEach {names : List String}
    (held : (state.adapter adapter).commands = names) :
    ((unregisterEach adapter names state).1.adapter adapter).commands = [] := by
  induction names generalizing state with
  | nil => exact held
  | cons name rest ih => exact ih (commands_unregister_first held)

/-- Dismantling leaves nothing of the plugin registered. Each registry is emptied by a step of its
own, and no later step fills it again. -/
theorem Owned.dismantle_cleared (owned : state.Owned) (core : CoreId) (known : Core) :
    (state.dismantle core known).Cleared known.adapter known.data.id := by
  have detached := owned.detach known.adapter
  have unsubscribed := detached.change (.unsubscribeOwner known.adapter known.data.id)
  have removing (allowed : Change → Prop)
      (allows : ∀ name, allowed (.unregister known.adapter name))
      (staged : allowed (.setStage core .disabled)) :
      ((state.detach known.adapter).unsubscribeOwner known.adapter known.data.id).1.ReachesBy
        allowed (state.dismantle core known) :=
    .trans (unregisterEach_reaches allows _ _) (.one _ (.setStage core .disabled) staged)
  have names : ((state.dismantle core known).adapter known.adapter).commands = [] :=
    commands_unregisterEach rfl
  refine ⟨?_, ?_, names, ?_⟩
  · refine (removing (Change.OwnTo known.adapter known.data.id) (fun _ => rfl)
      trivial).silent id ?_
    intro listener member hears
    have holds := (detached.held listener member known.adapter).mp hears
    rw [listeners_detach, if_pos rfl] at holds
    cases holds
  · intro offer member command runs
    have dismantled : (state.dismantle core known).Owned :=
      (removing (fun _ => True) (fun _ => trivial) trivial).keeps Owned
        (fun _ change _ held => held.change change) unsubscribed
    have holds := dismantled.named offer member known.adapter command runs
    rw [names] at holds
    cases holds
  · refine (removing (fun change => ∀ kind priority code,
      change ≠ .subscribe known.adapter kind known.data.id priority code) ?_ ?_).absent ?_
        (bus_unsubscribeOwner _ _ _)
    · exact fun name kind priority code => by simp
    · exact fun kind priority code => by simp
    · exact fun kind priority code never => never kind priority code rfl

end State

/-! ## The hook, and what follows it -/

namespace Action
variable {call : Caller Memory} {core : CoreId} {known : Core}

/-- Once the hook has returned, disabling dismantles what the plugin has registered,
and only logs besides. -/
theorem on_disableCore {outcome : Except Payload (Except String Unit)} {world left : World Memory}
    (ran : (runHook call core known .disable).on world = (.ok outcome, left)) :
    ∃ after, (disableCore call core known).on world =
        (.ok (hookVerdict known.data.id .disable outcome), after) ∧
      after.state.host = (left.state.dismantle core known).host ∧
      after.state.adapters = (left.state.dismantle core known).adapters ∧
      left.state.ReachesBy (Change.OwnTo known.adapter known.data.id) after.state := by
  obtain ⟨records, done⟩ := on_disableCore_ok ran
  refine ⟨_, done, rfl, rfl, ?_⟩
  exact .trans (left.state.dismantle_reaches core known rfl ⟨rfl, rfl⟩ (fun _ => rfl) trivial)
    (State.logAll_reaches (fun _ => trivial) records _)

/-- The hook keeps to its plugin's context: it asks for nothing else when it is
called in this world. -/
def HookInContext (depth : Nat) (core : CoreId) (known : Core) (moment : Hook)
    (world : World Memory) : Prop :=
  ∃ code, world.shelf[known.code]? = some code ∧
    ∀ request ∈ (code (.hook moment) core).requests (callWithin depth) ()
      (world.hooking core known moment), request.InContext known.adapter known.data.id = true

/-- Such a hook returns, in good order or not, and has made changes of the plugin's
own only. -/
theorem HookInContext.returns {depth : Nat} {moment : Hook} {world : World Memory}
    (context : HookInContext depth core known moment world) :
    ∃ outcome left, (runHook (callWithin (depth + 1)) core known moment).on world =
        (.ok outcome, left) ∧
      world.state.ReachesBy (Change.OwnTo known.adapter known.data.id) left.state := by
  obtain ⟨code, written, within⟩ := context
  obtain ⟨ending, subject, after, called, reaches⟩ := attempt_inContext depth (.hook moment) core ()
    (world.alter (·.updateCore core fun known => { known with busy := true })) written within
  unfold runHook
  rw [on_bind_ok (on_update ..), on_bind_ok called, on_bind_ok (on_update ..)]
  exact ⟨ending, _, rfl, .trans (.one world.state (.setBusy core true) trivial)
    (.trans reaches (.one _ (.setBusy core false) trivial))⟩

end Action

/-- Disabling a core that is not enabled is refused and changes nothing. If it is not
refused, then whatever the hook has done and however it has ended, nothing is
registered for the plugin any more, and nothing will be unless it is registered anew;
the answer tells how the hook has ended. What is registered for others, on their
adapters or on the plugin's bus, stays as the hook has left it, and as it was before
if the hook has made no changes but the plugin's own. A hook that keeps to the
plugin's context makes no others, and disabling always returns then. For all this
nobody may have removed a command behind the adapter's back. -/
theorem disable_clears_own_and_spares_others (depth : Nat) (world : World Memory)
    {core : CoreId} {known : Core} {stage : Stage} (reached : world.state.Reachable)
    (there : Action.reachable? world.state core = some (known, stage)) :
    (∀ other one, other ≠ core → world.state.cores[other]? = some one →
      one.adapter ≠ known.adapter) ∧
    (stage ≠ .enabled → (Action.disable (callWithin (depth + 1)) core).on world =
      (.ok (some (.error (.wrongStage .disable stage))), world)) ∧
    (stage = .enabled → Action.HookInContext depth core known .disable world →
      world.state.Kept known.adapter → ∃ result after,
        (Action.disable (callWithin (depth + 1)) core).on world = (.ok (some result), after) ∧
        result ≠ .error (.wrongStage .disable stage) ∧
        State.SameElsewhere known.adapter known.data.id world.state after.state) ∧
    ∀ result after,
      (Action.disable (callWithin (depth + 1)) core).on world = (.ok (some result), after) →
      result ≠ .error (.wrongStage .disable stage) →
        after.state.Cleared known.adapter known.data.id ∧
        (∀ changes, State.OnlySince changes known.adapter known.data.id
          (changes.foldl State.change after.state)) ∧
        ∃ outcome left, (Action.runHook (callWithin (depth + 1)) core known .disable).on world =
            (.ok outcome, left) ∧
          result = hookVerdict known.data.id .disable outcome ∧
          (left.state.Kept known.adapter →
            State.SameElsewhere known.adapter known.data.id left.state after.state) ∧
          (world.state.Kept known.adapter →
            world.state.ReachesBy (Change.OwnTo known.adapter known.data.id) left.state →
            State.SameElsewhere known.adapter known.data.id world.state after.state) := by
  have owned := reached.owned
  refine ⟨fun other one different listed => reached.coresApart.ne
    (Action.core_of_reachable there) listed different,
    fun other => Action.on_disable_refused other there, ?_, ?_⟩
  · rintro rfl context kept
    obtain ⟨outcome, left, ran, first⟩ := context.returns
    obtain ⟨after, done, -, -, second⟩ := Action.on_disableCore ran
    refine ⟨hookVerdict known.data.id .disable outcome, after, ?_,
      Action.hookVerdict_ne_wrongStage _ _ _ _ outcome, ?_⟩
    · rw [Action.on_disable_enabled there, done]
    · exact (kept.unclaimed owned).own_reaches owned (first.trans second)
  · intro result after returned accepted
    obtain rfl | other := eq_or_ne stage .enabled
    · rw [Action.on_disable_enabled there] at returned
      cases ran : (Action.runHook (callWithin (depth + 1)) core known .disable).on world with
      | mk ending left =>
        cases ending with
        | error stop =>
          unfold Action.disableCore at returned
          rw [Action.on_bind_error ran] at returned
          cases returned
        | ok outcome =>
          obtain ⟨done, same, host, adapters, second⟩ := Action.on_disableCore ran
          rw [same] at returned
          cases returned
          have moved : world.Reaches left :=
            (Action.keeps_runHook (callWithin_reaches (depth + 1))
              (World.Law.reaching_indulges core) known .disable).left ran
          have leftOwned := (reached.reaches moved.1).owned
          have cleared := (leftOwned.dismantle_cleared core known).of_same host adapters
          refine ⟨cleared, cleared.onlySince, outcome, left, rfl, rfl, ?_, ?_⟩
          · exact fun kept => (kept.unclaimed leftOwned).own_reaches leftOwned second
          · exact fun kept first =>
              (kept.unclaimed owned).own_reaches owned (first.trans second)
    · rw [Action.on_disable_refused other there] at returned
      cases returned
      exact absurd rfl accepted

/-! ## Two plugins on one host -/

/-- A plugin of some name and a command of some name, with nothing special to them. -/
def plainData (id : String) : Data := ⟨id, id, "1.0.0", [], none, none, [], none⟩

def plainCommand (name : String) (aliases : List String) : Command :=
  ⟨name, aliases, none, none, none, [], 1, none⟩

/-- Two enabled plugins on a host that has a listener and a command of its own. -/
def sharedChanges : List Change :=
  [.construct "memory" (plainData "greeter") .default 0, .setStage 0 .loaded,
    .construct "memory" (plainData "mail") .default 1, .setStage 1 .loaded,
    .listen "host" .chat 1, .attach 0, .setStage 0 .enabled, .attach 1, .setStage 1 .enabled,
    .register 0 (plainCommand "greet" ["hi"]), .offer "host" "list" [] 1,
    .register 1 (plainCommand "mail" ["post"]), .subscribe 0 (some .chat) "greeter" .normal 1,
    .subscribe 0 none "observer" .monitor 1, .subscribe 1 none "mail" .low 1]

def greeterCore : Core := ⟨plainData "greeter", 0, .default, 0, some .enabled, false⟩

/-- The hook of the first plugin registers more before it panics. -/
def partingCode : Code Unit :=
  .plugin fun _ _ => .ask (.register 0 (plainCommand "Bye" [])) fun _ =>
    .ask (.subscribe 0 none "greeter" .lowest 1) fun _ => .panic (.text "lost")

def sharedWorld : World Unit where
  state := sharedChanges.foldl State.change (.initial .server ⟨.empty, [], "/", "/"⟩)
  memory := ()
  shelf := [partingCode, default]

theorem disable_spares_neighbours :
    sharedWorld.state.Reachable ∧
      Action.reachable? sharedWorld.state 0 = some (greeterCore, .enabled) ∧
      Action.HookInContext 0 0 greeterCore .disable sharedWorld ∧ sharedWorld.state.Kept 0 ∧
      ∃ result after, (Action.disable (callWithin 1) 0).on sharedWorld =
          (.ok (some result), after) ∧
        after.state.Cleared 0 "greeter" ∧
        State.SameElsewhere 0 "greeter" sharedWorld.state after.state := by
  have reached : sharedWorld.state.Reachable :=
    ⟨.server, ⟨.empty, [], "/", "/"⟩, sharedChanges, fun _ _ => trivial, rfl⟩
  have there : Action.reachable? sharedWorld.state 0 = some (greeterCore, .enabled) := rfl
  have context : Action.HookInContext 0 0 greeterCore .disable sharedWorld :=
    ⟨partingCode, rfl, by decide +kernel⟩
  have kept : sharedWorld.state.Kept 0 := by
    unfold State.Kept
    decide +kernel
  obtain ⟨-, -, returns, clears⟩ := disable_clears_own_and_spares_others 0 sharedWorld reached there
  obtain ⟨result, after, returned, accepted, same⟩ := returns rfl context kept
  exact ⟨reached, there, context, kept, result, after, returned,
    (clears result after returned accepted).1, same⟩

/-- The commands of the other plugin and of the host are all that is left. -/
example :
    ((Action.disable (callWithin 1) 0).on sharedWorld).2.state.host.registry.commands.map
      (·.name) = ["list", "mail"] := by
  decide +kernel

end PluginBridge
