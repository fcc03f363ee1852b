import PluginBridge.Proofs.Commands.Names
import PluginBridge.Proofs.Lifecycle.Disable

/-! The host removes a command by its name and does not ask whose it is. An adapter asks
for this by the names that it holds, and it holds a name until it asks. So if somebody else
has taken the command away from the host in between, the name is still held, and whoever has
registered a command under it since loses that command to the adapter. -/
namespace PluginBridge
open Host (Offer)
open Text
open Plugin
variable {Memory : Type}

theorem Host.mem_removeCommand {host : Host} {name : String} {offer : Offer} :
    offer ∈ (host.removeCommand name).1.registry.commands ↔
      offer ∈ host.registry.commands ∧ sameLabel offer.name name = false := by
  simp [removeCommand, Registry.removeCommand]

namespace State
variable {state : State} {id : AdapterId} {offer : Offer}

/-- An adapter holds a name, in whatever letter case. -/
def HeldBy (state : State) (id : AdapterId) (name : String) : Prop :=
  ∃ held ∈ (state.adapter id).commands, sameLabel held name = true

instance (state : State) (id : AdapterId) (name : String) : Decidable (state.HeldBy id name) :=
  inferInstanceAs (Decidable (∃ held ∈ (state.adapter id).commands, _))

/-- Which changes take a command away from the host: those that ask for its name, if an
adapter that asks for it holds the name. -/
inductive Removes (state : State) (offer : Offer) : Change → Prop where
  | withdraw {name : String} (named : sameLabel offer.name name = true) :
      Removes state offer (.withdraw name)
  | unregister {id : AdapterId} {name : String} (named : sameLabel offer.name name = true)
      (held : state.HeldBy id offer.name) : Removes state offer (.unregister id name)

/-! ## One command at a time -/

theorem mem_unregister {name : String} :
    offer ∈ (state.unregister id name).1.host.registry.commands ↔
      offer ∈ state.host.registry.commands ∧
        ¬(sameLabel offer.name name = true ∧ state.HeldBy id offer.name) := by
  obtain ⟨missing, same⟩ | ⟨known, -, found, removed⟩ := unregister_cases state id name
  · rw [same]
    refine (and_iff_left ?_).symm
    rintro ⟨named, held, member, holds⟩
    exact List.find?_eq_none.mp missing held member (sameLabel_trans holds named)
  · have held := List.mem_of_find?_eq_some found
    have fits := List.find?_some (p := (sameLabel · name)) found
    rw [removed, host_updateAdapter, updateHost, Host.mem_removeCommand]
    refine and_congr_right fun _ => ?_
    rw [← Bool.not_eq_true, not_iff_not]
    constructor
    · exact fun named => ⟨sameLabel_trans named fits, known, held, sameLabel_comm .. ▸ named⟩
    · exact fun named => sameLabel_trans named.1 (sameLabel_comm .. ▸ fits)

/-- No other change takes a command away. -/
theorem stays_unless_removed {change : Change} (member : offer ∈ state.host.registry.commands)
    (spared : ¬ state.Removes offer change) :
    offer ∈ (state.change change).host.registry.commands := by
  cases change with
  | withdraw name =>
    refine Host.mem_removeCommand.mpr ⟨member, ?_⟩
    rw [← Bool.not_eq_true]
    exact fun named => spared (.withdraw named)
  | unregister id name =>
    exact mem_unregister.mpr ⟨member, fun asked => spared (.unregister asked.1 asked.2)⟩
  | listen owner kind code =>
    simp only [State.change]
    cases accepted : state.host.addListener owner kind (.code code) with
    | error refusal => exact member
    | ok result =>
      obtain ⟨-, -, same⟩ := Host.addListener_ok accepted
      simp only [tried, same]
      exact member
  | offer owner name aliases code =>
    simp only [State.change]
    cases accepted : state.host.addCommand ⟨owner, name, aliases, .code code⟩ with
    | error refusal => exact member
    | ok result =>
      obtain ⟨-, -, same⟩ := Host.addCommand_ok accepted
      simp only [tried, same]
      exact List.mem_append_left _ member
  | attach adapter =>
    obtain same | ⟨host, listeners, record, -, -, added, attached⟩ := attach_cases state adapter
    · rwa [State.change, same]
    · obtain ⟨-, rfl⟩ := Host.addListeners_ok added
      rwa [State.change, attached, host_log, host_updateAdapter]
  | detach adapter =>
    obtain ⟨-, same⟩ | ⟨record, -, detached⟩ := detach_cases state adapter
    · rwa [State.change, same]
    · rwa [State.change, detached, host_log, host_updateAdapter, updateHost,
        Host.removeListeners_eq]
  | register adapter command =>
    obtain same | ⟨record, -, -, registered⟩ := register_cases state adapter command
    · rwa [State.change, same]
    · rw [State.change, registered]
      exact List.mem_append_left _ member
  | tell user message => cases user <;> exact member
  | _ => exact member

theorem gone_iff_removes (member : offer ∈ state.host.registry.commands) (change : Change) :
    offer ∉ (state.change change).host.registry.commands ↔ state.Removes offer change := by
  refine ⟨fun gone => by_contra fun spared => gone (stays_unless_removed member spared), ?_⟩
  rintro (named | ⟨named, held⟩) stays
  · simp [(Host.mem_removeCommand.mp stays).2] at named
  · exact (mem_unregister.mp stays).2 ⟨named, held⟩

/-! ## All names of an adapter -/

/-- Once all names that an adapter holds have been asked for, each command of such a name
has gone. -/
theorem mem_unregisterEach {names : List String} (held : (state.adapter id).commands = names) :
    offer ∈ (unregisterEach id names state).1.host.registry.commands ↔
      offer ∈ state.host.registry.commands ∧ ¬ state.HeldBy id offer.name := by
  induction names generalizing state with
  | nil => simp [unregisterEach, HeldBy, held]
  | cons name rest ih =>
    have left := commands_unregister_first held
    simp only [unregisterEach, ih left, mem_unregister, HeldBy, held, left, List.mem_cons,
      exists_eq_or_imp, and_assoc, sameLabel_comm offer.name name]
    refine and_congr_right fun _ => ?_
    by_cases named : sameLabel name offer.name = true <;> simp [named]

theorem mem_dismantle {core : CoreId} {known : Core} :
    offer ∈ (state.dismantle core known).host.registry.commands ↔
      offer ∈ state.host.registry.commands ∧ ¬ state.HeldBy known.adapter offer.name := by
  have detached : (state.detach known.adapter).host.registry.commands =
        state.host.registry.commands ∧
      ((state.detach known.adapter).adapter known.adapter).commands =
        (state.adapter known.adapter).commands := by
    obtain ⟨-, same⟩ | ⟨record, -, detached⟩ := detach_cases state known.adapter
    · simp only [same, and_self]
    · rw [detached]
      refine ⟨by simp [updateHost, Host.removeListeners_eq], ?_⟩
      rw [adapter_log, view_updateAdapter Adapter.commands fun _ => by rfl]
      rfl
  have silenced : (((state.detach known.adapter).unsubscribeOwner known.adapter
      known.data.id).1.adapter known.adapter).commands = (state.adapter known.adapter).commands :=
    (view_updateAdapter Adapter.commands (fun _ => by rfl) _ _).trans detached.2
  refine (mem_unregisterEach rfl).trans ?_
  simp only [HeldBy, silenced]
  exact and_congr_left fun _ => iff_of_eq (congrArg (offer ∈ ·) detached.1)

/-! ## Where names are left alone -/

/-- What a run has registered for an adapter runs for it, and nothing else does. -/
theorem runsFor_iff_registered (kind : Host.Kind) (surroundings : Surroundings)
    (changes : List Change)
    (member : offer ∈ (changes.foldl change (.initial kind surroundings)).host.registry.commands) :
    offer.runsFor id = true ↔
      ∃ command, .register id command ∈ changes ∧ offer = State.offer id command := by
  constructor
  · intro runs
    have reachable : (changes.foldl change (.initial kind surroundings)).Reachable :=
      ⟨kind, surroundings, changes, fun _ _ => trivial, rfl⟩
    obtain ⟨command, same⟩ := reachable.registered (mem_offersOf.mpr ⟨member, runs⟩)
    have none : ∀ offer ∈ (State.initial kind surroundings).host.registry.commands, ∀ command,
        offer.executor ≠ .adapter id command := fun _ there => nomatch there
    exact ⟨command, offer_since changes none offer member command (congrArg Offer.executor same),
      same⟩
  · rintro ⟨command, -, rfl⟩
    exact Offer.runsFor_iff.mpr ⟨command, rfl⟩

/-- As long as the names that adapters hold are left alone, a name is held by the adapter
whose command bears it. -/
theorem InStep.heldBy_iff (inStep : state.InStep) (owned : state.Owned)
    (member : offer ∈ state.host.registry.commands) :
    state.HeldBy id offer.name ↔ offer.runsFor id = true := by
  constructor
  · rintro ⟨held, mine, same⟩
    obtain ⟨other, runs, rfl⟩ := inStep.mem_commands.mp mine
    obtain rfl := owned.only member (mem_offersOf.mp runs).1 same
    exact (mem_offersOf.mp runs).2
  · intro runs
    exact ⟨offer.name, inStep.mem_commands.mpr ⟨offer, mem_offersOf.mpr ⟨member, runs⟩, rfl⟩,
      sameLabel_refl _⟩

/-- More changes of a kind that is allowed everywhere. -/
theorem RunsBy.onward {allowed : State → Change → Prop} {kind : Change → Prop}
    {start later : State} (run : start.RunsBy allowed state)
    (within : ∀ state change, kind change → allowed state change)
    (reaches : state.ReachesBy kind later) : start.RunsBy allowed later :=
  reaches.keeps (fun later => start.RunsBy allowed later)
    (fun state change own before => before.step change (within state change own)) run

/-- What a plugin does through its context leaves all names alone. -/
theorem leavesNames_of_own {owner : String} (state : State) (change : Change)
    (own : change.OwnTo id owner) : state.LeavesNames change := by
  cases change with
  | withdraw name => exact own.elim
  | _ => exact nofun

theorem InStep.kept (inStep : state.InStep) (id : AdapterId) : state.Kept id := by
  intro name held
  obtain ⟨offer, mine, named⟩ := inStep.mem_commands.mp held
  obtain ⟨member, runs⟩ := mem_offersOf.mp mine
  exact ⟨offer, member, named, runs⟩

theorem SameOnHost.mem {later : State} (same : SameOnHost id state later)
    (foreign : offer.runsFor id = false) (member : offer ∈ state.host.registry.commands) :
    offer ∈ later.host.registry.commands := by
  have others : offer ∈ state.host.registry.commands.filter (!·.runsFor id) :=
    List.mem_filter.mpr ⟨member, by simp [foreign]⟩
  rw [← same.commands] at others
  exact List.mem_of_mem_filter others

end State

/-! ## Disabling -/

namespace Action
variable {core : CoreId} {known : Core} {world : World Memory}

theorem on_disable_idle {call : Caller Memory}
    (idle : ∀ known, reachable? world.state core ≠ some (known, .enabled)) :
    ((disable call core).on world).2 = world := by
  cases there : reachable? world.state core with
  | none => rw [on_disable_beyond there]
  | some found =>
    obtain ⟨known, stage⟩ := found
    have other : stage ≠ .enabled := fun same => idle known (same ▸ there)
    rw [on_disable_refused other there]

/-- If the hook returns, disabling takes away each command of a name that the adapter holds
by then. If it does not, nothing comes after it. -/
theorem mem_disable {call : Caller Memory} {left : World Memory}
    {outcome : Except Stop (Except Payload (Except String Unit))}
    (there : reachable? world.state core = some (known, .enabled))
    (ran : (runHook call core known .disable).on world = (outcome, left)) {offer : Offer} :
    offer ∈ ((disable call core).on world).2.state.host.registry.commands ↔
      offer ∈ left.state.host.registry.commands ∧
        ¬(outcome.isOk = true ∧ left.state.HeldBy known.adapter offer.name) := by
  rw [on_disable_enabled there]
  cases outcome with
  | error stop => simp [on_disableCore_error ran, Except.isOk, Except.toBool]
  | ok outcome =>
    obtain ⟨after, done, host, -, -⟩ := on_disableCore ran
    simp [done, host, State.mem_dismantle, Except.isOk, Except.toBool]

/-- A hook in context leaves the names alone once more, so no name is held that a command of
another bears. -/
theorem HookInContext.disable_spares {depth : Nat} {kind : Host.Kind} {surroundings : Surroundings}
    (context : HookInContext depth core known .disable world)
    (there : reachable? world.state core = some (known, .enabled))
    (run : (State.initial kind surroundings).RunsBy State.LeavesNames world.state) {offer : Offer}
    (member : offer ∈ world.state.host.registry.commands)
    (foreign : offer.runsFor known.adapter = false) :
    offer ∈ ((disable (callWithin (depth + 1)) core).on world).2.state.host.registry.commands := by
  obtain ⟨outcome, left, ran, own⟩ := context.returns
  have owned : world.state.Owned := State.Reachable.owned ⟨kind, surroundings, run.reaches⟩
  have same := ((run.inStep.kept _).unclaimed owned).own_reaches owned own
  have still := same.mem foreign member
  have later := run.onward State.leavesNames_of_own own
  have leftOwned : left.state.Owned := State.Reachable.owned ⟨kind, surroundings, later.reaches⟩
  refine (mem_disable there ran).mpr ⟨still, fun gone => ?_⟩
  rw [later.inStep.heldBy_iff leftOwned still, foreign] at gone
  cases gone.2

end Action

/-- A command that runs for an adapter is one that the adapter has registered. At every point
of a run, a change takes a command away from the host if and only if it is the host's own
removal of the command's name, or an adapter asks for that name and holds it; an adapter that
removes all its commands takes away each command whose name it holds; and so does disabling a
plugin, counted from what the hook has left, if the hook has returned and the plugin was
enabled. None of them asks whose the command is. If nobody has removed a command from the host
by a name that an adapter holds, then the names that an adapter holds are those of its own
commands, so it takes away nothing else, and disabling takes nothing else away if the hook
keeps to the plugin's context. -/
theorem commands_go_by_name (kind : Host.Kind) (surroundings : Surroundings)
    (changes : List Change) :
    let start := State.initial kind surroundings
    let state := changes.foldl State.change start
    (∀ offer ∈ state.host.registry.commands, ∀ id,
      (offer.runsFor id = true ↔
        ∃ command, .register id command ∈ changes ∧ offer = State.offer id command) ∧
      (offer ∉ (state.unregisterAll id).1.host.registry.commands ↔ state.HeldBy id offer.name) ∧
      (start.Allows State.LeavesNames changes →
        (state.HeldBy id offer.name ↔ offer.runsFor id = true))) ∧
    (∀ offer ∈ state.host.registry.commands, ∀ change,
      offer ∉ (state.change change).host.registry.commands ↔ state.Removes offer change) ∧
    ∀ (world : World Memory) (depth : Nat) (core : CoreId), world.state = state →
      let after := ((Action.disable (callWithin (depth + 1)) core).on world).2
      ((∀ known, Action.reachable? state core ≠ some (known, .enabled)) → after = world) ∧
      ∀ known, Action.reachable? state core = some (known, .enabled) →
        (∃ outcome left,
          (Action.runHook (callWithin (depth + 1)) core known .disable).on world =
            (outcome, left) ∧
          state.Reaches left.state ∧ ∀ offer ∈ left.state.host.registry.commands,
            (offer ∉ after.state.host.registry.commands ↔
              outcome.isOk = true ∧ left.state.HeldBy known.adapter offer.name)) ∧
        (start.Allows State.LeavesNames changes →
          Action.HookInContext depth core known .disable world →
          ∀ offer ∈ state.host.registry.commands, offer.runsFor known.adapter = false →
            offer ∈ after.state.host.registry.commands) := by
  intro start state
  have owned : state.Owned :=
    State.Reachable.owned ⟨kind, surroundings, changes, fun _ _ => trivial, rfl⟩
  have run (allows : start.Allows State.LeavesNames changes) :
      start.RunsBy State.LeavesNames state := .of_changes changes allows
  refine ⟨fun offer member id => ⟨?_, ?_, fun allows => ?_⟩,
    fun offer member => State.gone_iff_removes member, fun world depth core here => ?_⟩
  · exact State.runsFor_iff_registered kind surroundings changes member
  · rw [State.unregisterAll, State.mem_unregisterEach rfl, and_iff_right member, not_not]
  · exact (run allows).inStep.heldBy_iff owned member
  · rw [← here] at owned run ⊢
    refine ⟨Action.on_disable_idle, fun known there => ⟨?_, fun allows context => ?_⟩⟩
    · cases ran : (Action.runHook (callWithin (depth + 1)) core known .disable).on world with
      | mk outcome left =>
        have moved := (Action.keeps_runHook (callWithin_reaches (depth + 1))
          (World.Law.reaching_indulges core) known .disable).left ran
        refine ⟨outcome, left, rfl, moved.1, fun offer member => ?_⟩
        rw [Action.mem_disable there ran, and_iff_right member, not_not]
    · exact fun offer member foreign => context.disable_spares there (run allows) member foreign

/-- Nobody has removed a command behind an adapter's back here, so the plugin that leaves
takes its own commands away and spares its neighbour's. -/
theorem neighbour_keeps_commands :
    let start := State.initial .server ⟨.empty, [], "/", "/"⟩
    let greet := State.offer 0 (plainCommand "greet" ["hi"])
    let mail := State.offer 1 (plainCommand "mail" ["post"])
    start.Allows State.LeavesNames sharedChanges ∧
      Action.HookInContext 0 0 greeterCore .disable sharedWorld ∧
      greet ∉ (sharedWorld.state.unregisterAll 0).1.host.registry.commands ∧
      mail ∈ (sharedWorld.state.unregisterAll 0).1.host.registry.commands ∧
      mail ∈ ((Action.disable (callWithin 1) 0).on sharedWorld).2.state.host.registry.commands := by
  intro start greet mail
  have allows : start.Allows State.LeavesNames sharedChanges := by decide +kernel
  have context : Action.HookInContext 0 0 greeterCore .disable sharedWorld :=
    ⟨partingCode, rfl, by decide +kernel⟩
  have greetThere : greet ∈ sharedWorld.state.host.registry.commands := by decide +kernel
  have mailThere : mail ∈ sharedWorld.state.host.registry.commands := by decide +kernel
  obtain ⟨each, -, disabling⟩ :=
    @commands_go_by_name Unit .server ⟨.empty, [], "/", "/"⟩ sharedChanges
  obtain ⟨-, greetGoes, greetHeld⟩ := each greet greetThere 0
  obtain ⟨-, mailGoes, mailHeld⟩ := each mail mailThere 0
  refine ⟨allows, context, greetGoes.mpr ((greetHeld allows).mpr rfl), ?_, ?_⟩
  · by_contra gone
    cases (mailHeld allows).mp (mailGoes.mp gone)
  · exact ((disabling sharedWorld 0 0 rfl).2 greeterCore rfl).2 allows context mail mailThere rfl

/-- A plugin registers a command, somebody removes it from the host, and another adapter
registers one under the free name. -/
def takenOver : List Change :=
  [.construct "memory" (plainData "greeter") .default 0, .setStage 0 .loaded,
    .setStage 0 .enabled, .newAdapter "memory" "Console" false,
    .register 0 (plainCommand "greet" []), .withdraw "greet",
    .register 1 (plainCommand "Greet" ["hello"])]

/-- The plugin still holds the name, so whichever way it removes its commands, it takes
away the other one. -/
theorem held_name_takes_foreign_command :
    let state := takenOver.foldl State.change (.initial .server ⟨.empty, [], "/", "/"⟩)
    let foreign := State.offer 1 (plainCommand "Greet" ["hello"])
    foreign ∈ state.host.registry.commands ∧ foreign.runsFor 0 = false ∧
      (state.unregister 0 "greet").2 = true ∧
      foreign ∉ (state.unregister 0 "greet").1.host.registry.commands ∧
      foreign ∉ (state.unregisterAll 0).1.host.registry.commands ∧
      foreign ∉ ((Action.disable (callWithin 1) 0).on
        ⟨state, (), [default]⟩).2.state.host.registry.commands := by
  decide +kernel

end PluginBridge
