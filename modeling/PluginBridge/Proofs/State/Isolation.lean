import PluginBridge.Proofs.State.Ownership

/-! What a plugin does through its context stays its own. It can register and remove
listeners on its bus under its name and commands through its adapter, and all of
this leaves alone whatever else is registered: by the host, by other plugins on
adapters of their own, or on its bus under another name. Commands are removed by
their names, so this rests on nobody else having taken a name that the adapter
holds. -/
namespace PluginBridge
open Host (Listener Offer)

def Host.Offer.runsFor (adapter : AdapterId) (offer : Offer) : Bool :=
  match offer.executor with
  | .code _ => false
  | .adapter id _ => id = adapter

theorem Host.Offer.runsFor_iff {adapter : AdapterId} {offer : Offer} :
    offer.runsFor adapter = true ↔ ∃ command, offer.executor = .adapter adapter command := by
  unfold runsFor
  cases offer.executor <;> simp

/-- Changes that leave alone what is registered with the host, but for what one
adapter has registered. -/
def Change.Spares (adapter : AdapterId) : Change → Prop
  | .listen .. | .unlisten _ | .unlistenOwner _ | .offer .. | .withdraw _ | .attach _ => False
  | .detach id | .register id _ | .unregister id _ => id = adapter
  | _ => True

/-- The changes that one plugin makes through its context, and those that come with
its life. -/
def Change.OwnTo (adapter : AdapterId) (owner : String) : Change → Prop
  | .log _ | .note _ | .tell .. | .setStage .. | .setBusy .. => True
  | .detach id | .register id _ | .unregister id _ => id = adapter
  | .subscribe id _ name _ _ | .unsubscribeOwner id name => id = adapter ∧ name = owner
  | _ => False

theorem Change.OwnTo.spares {adapter : AdapterId} {owner : String} {change : Change}
    (own : change.OwnTo adapter owner) : change.Spares adapter := by
  cases change with
  | detach id => exact own
  | register id command => exact own
  | unregister id name => exact own
  | listen | unlisten | unlistenOwner | offer | withdraw | attach => exact own.elim
  | _ => trivial

namespace State
variable {state between later : State} {adapter : AdapterId} {owner : String} {change : Change}

/-- What is registered with the host for others than one adapter is the same, and in
the same order. -/
structure SameOnHost (adapter : AdapterId) (state later : State) : Prop where
  listeners : later.host.registry.listeners.filter (·.hearer ≠ .adapter adapter) =
    state.host.registry.listeners.filter (·.hearer ≠ .adapter adapter)
  commands : later.host.registry.commands.filter (!·.runsFor adapter) =
    state.host.registry.commands.filter (!·.runsFor adapter)

/-- So are the other adapters, and what others have on the bus of this one. -/
structure SameElsewhere (adapter : AdapterId) (owner : String) (state later : State) : Prop
    extends SameOnHost adapter state later where
  adapters : ∀ other, other ≠ adapter → later.adapter other = state.adapter other
  bus : (later.bus adapter).subscriptions.filter (·.owner ≠ owner) =
    (state.bus adapter).subscriptions.filter (·.owner ≠ owner)

theorem SameOnHost.refl (state : State) : SameOnHost adapter state state := ⟨rfl, rfl⟩

theorem SameOnHost.trans (first : SameOnHost adapter state between)
    (second : SameOnHost adapter between later) : SameOnHost adapter state later where
  listeners := second.listeners.trans first.listeners
  commands := second.commands.trans first.commands

/-! ## On the host -/

/-- Each command whose name the adapter holds is still there: nobody has removed it
behind the adapter's back. -/
def Kept (state : State) (adapter : AdapterId) : Prop :=
  ∀ name ∈ (state.adapter adapter).commands, ∃ offer ∈ state.host.registry.commands,
    offer.name = name ∧ offer.runsFor adapter = true

/-- Nobody else answers to a name that the adapter holds. -/
def Unclaimed (state : State) (adapter : AdapterId) : Prop :=
  ∀ name ∈ (state.adapter adapter).commands, ∀ offer ∈ state.host.registry.commands,
    offer.answersTo name = true → offer.runsFor adapter = true

theorem Kept.unclaimed (kept : state.Kept adapter) (owned : state.Owned) :
    state.Unclaimed adapter := by
  intro name holds offer member answers
  obtain ⟨own, there, rfl, runs⟩ := kept name holds
  rwa [owned.sound.unique member there answers own.answersTo_name]

/-- Nothing is registered for an adapter that does not exist. -/
theorem Owned.absent (owned : state.Owned) (absent : state.hasAdapter adapter = false) :
    (∀ listener ∈ state.host.registry.listeners, listener.hearer ≠ .adapter adapter) ∧
      ∀ offer ∈ state.host.registry.commands, offer.runsFor adapter = false := by
  constructor
  · intro listener member hears
    have holds := (owned.held listener member adapter).mp hears
    rw [adapter_of_absent absent] at holds
    cases holds
  · intro offer member
    by_contra runs
    obtain ⟨command, executes⟩ := Offer.runsFor_iff.mp (by simpa using runs)
    have holds := owned.named offer member adapter command executes
    rw [adapter_of_absent absent] at holds
    cases holds

theorem Owned.detach_onHost (owned : state.Owned) (adapter : AdapterId) :
    SameOnHost adapter state (state.detach adapter) := by
  refine ⟨?_, ?_⟩
  · rw [owned.detach_listeners, List.filter_filter]
    simp
  · obtain ⟨-, same⟩ | ⟨record, -, detached⟩ := detach_cases state adapter
    · rw [same]
    · rw [detached]
      simp [updateHost, Host.removeListeners_eq]

namespace Unclaimed
variable (unclaimed : state.Unclaimed adapter)
include unclaimed

/-- Fewer names and fewer commands leave less to be claimed. -/
theorem of_fewer
    (names : ∀ name ∈ (later.adapter adapter).commands, name ∈ (state.adapter adapter).commands)
    (commands : ∀ offer ∈ later.host.registry.commands, offer ∈ state.host.registry.commands) :
    later.Unclaimed adapter :=
  fun name holds offer member => unclaimed name (names name holds) offer (commands offer member)

theorem detach : (state.detach adapter).Unclaimed adapter := by
  obtain ⟨-, same⟩ | ⟨record, -, detached⟩ := detach_cases state adapter
  · rwa [same]
  · rw [detached]
    refine unclaimed.of_fewer (fun name holds => ?_) fun offer member => ?_
    · rwa [adapter_log, view_updateAdapter Adapter.commands fun _ => by rfl] at holds
    · simpa [updateHost, Host.removeListeners_eq] using member

/-- A command is registered under a name that was free, so that none of the older commands answers
to it. -/
theorem register_onHost (command : Command) :
    SameOnHost adapter state (state.register adapter command).1 ∧
      (state.register adapter command).1.Unclaimed adapter := by
  obtain same | ⟨record, there, free, registered⟩ := register_cases state adapter command
  · rw [same]
    exact ⟨.refl state, unclaimed⟩
  · rw [registered]
    have mine : (offer adapter command).runsFor adapter = true := by
      simp [offer, Offer.runsFor]
    refine ⟨⟨rfl, ?_⟩, ?_⟩
    · simp [updateHost, Host.Registry.addCommand, mine]
    · intro name holds known member answers
      rw [adapter_log, adapter_updateAdapter_self (by exact there)] at holds
      obtain old | new := List.mem_append.mp member
      · obtain before | added := List.mem_append.mp holds
        · exact unclaimed name before known old answers
        · obtain rfl := List.mem_singleton.mp added
          have silent := Host.Registry.takenLabel_none free old List.mem_cons_self
          rw [silent] at answers
          cases answers
      · obtain rfl := List.mem_singleton.mp new
        exact mine

theorem unregister_onHost (name : String) :
    SameOnHost adapter state (state.unregister adapter name).1 ∧
      (state.unregister adapter name).1.Unclaimed adapter := by
  obtain ⟨-, same⟩ | ⟨known, there, found, removed⟩ := unregister_cases state adapter name
  · rw [same]
    exact ⟨.refl state, unclaimed⟩
  · rw [removed]
    have held : known ∈ (state.adapter adapter).commands := List.mem_of_find?_eq_some found
    refine ⟨⟨rfl, ?_⟩, ?_⟩
    · simp only [host_updateAdapter, updateHost, Host.removeCommand, Host.Registry.removeCommand,
        List.filter_filter]
      refine List.filter_congr fun offer member => ?_
      cases same : Text.sameLabel offer.name known with
      | false => simp
      | true =>
        have answers := Offer.answersTo_congr same offer.answersTo_name
        simp [unclaimed known held offer member answers]
    · intro other holds offer member
      rw [adapter_updateAdapter_self (by exact there)] at holds
      exact unclaimed other (List.mem_of_mem_erase holds) offer (List.mem_of_mem_filter member)

/-- Each change that spares the host leaves there what others have registered, and
nobody else takes a name of the adapter by it. -/
theorem spares_change (owned : state.Owned) (spares : change.Spares adapter) :
    SameOnHost adapter state (state.change change) ∧ (state.change change).Unclaimed adapter := by
  have quiet {next : State} (registry : next.host.registry = state.host.registry)
      (names : (next.adapter adapter).commands = (state.adapter adapter).commands) :
      SameOnHost adapter state next ∧ next.Unclaimed adapter := by
    refine ⟨⟨by rw [registry], by rw [registry]⟩, ?_⟩
    unfold Unclaimed
    rwa [registry, names]
  cases change with
  | detach id =>
    obtain rfl : id = adapter := spares
    exact ⟨owned.detach_onHost id, unclaimed.detach⟩
  | register id command =>
    obtain rfl : id = adapter := spares
    exact unclaimed.register_onHost command
  | unregister id name =>
    obtain rfl : id = adapter := spares
    exact unclaimed.unregister_onHost name
  | newAdapter platform consoleName logEvents =>
    exact quiet rfl (view_addAdapter Adapter.commands (fun _ _ _ => rfl) ..)
  | construct platform data settings code =>
    exact quiet rfl (view_addAdapter Adapter.commands (fun _ _ _ => rfl) platform ..)
  | subscribe id kind name priority code =>
    exact quiet rfl (view_updateAdapter Adapter.commands (fun _ => by rfl) ..)
  | unsubscribe id subscription =>
    exact quiet rfl (view_updateAdapter Adapter.commands (fun _ => by rfl) ..)
  | unsubscribeOwner id name =>
    exact quiet rfl (view_updateAdapter Adapter.commands (fun _ => by rfl) ..)
  | tell user message => cases user <;> exact quiet rfl rfl
  | listen | unlisten | unlistenOwner | offer | withdraw | attach => exact spares.elim
  | _ => exact quiet rfl rfl

/-- However many changes spare the host, what others have registered there stays. -/
theorem spares_reaches (owned : state.Owned)
    (reaches : state.ReachesBy (Change.Spares adapter) later) :
    SameOnHost adapter state later := by
  have law : SameOnHost adapter state later ∧ later.Unclaimed adapter ∧ later.Owned := by
    refine reaches.keeps (fun later => SameOnHost adapter state later ∧
      later.Unclaimed adapter ∧ later.Owned) ?_ ⟨.refl state, unclaimed, owned⟩
    rintro between change spares ⟨same, still, held⟩
    obtain ⟨more, after⟩ := still.spares_change held spares
    exact ⟨same.trans more, after, held.change change⟩
  exact law.1

end Unclaimed

/-! ## On the adapters -/

/-- A plugin's own changes leave the other adapters alone. -/
theorem adapter_own_change (own : change.OwnTo adapter owner) {other : AdapterId}
    (apart : other ≠ adapter) : (state.change change).adapter other = state.adapter other := by
  cases change with
  | log record => rfl
  | note happening => rfl
  | tell user message => rfl
  | setStage core stage => rfl
  | setBusy core busy => rfl
  | detach id =>
    obtain rfl : id = adapter := own
    obtain ⟨-, same⟩ | ⟨record, -, detached⟩ := detach_cases state id
    · rw [State.change, same]
    · rw [State.change, detached, adapter_log]
      exact adapter_updateAdapter_ne apart _
  | register id command =>
    obtain rfl : id = adapter := own
    obtain same | ⟨record, -, -, registered⟩ := register_cases state id command
    · rw [State.change, same]
    · rw [State.change, registered, adapter_log]
      exact adapter_updateAdapter_ne apart _
  | unregister id name =>
    obtain rfl : id = adapter := own
    obtain ⟨-, same⟩ | ⟨known, -, -, removed⟩ := unregister_cases state id name
    · rw [State.change, same]
    · rw [State.change, removed]
      exact adapter_updateAdapter_ne apart _
  | subscribe id kind name priority code =>
    obtain ⟨rfl, -⟩ := own
    exact adapter_updateAdapter_ne apart _
  | unsubscribeOwner id name =>
    obtain ⟨rfl, -⟩ := own
    exact adapter_updateAdapter_ne apart _
  | _ => exact own.elim

/-- A registration that a test fails is not seen by it, wherever it takes its place. -/
theorem filter_insertIdx {α : Type} {test : α → Bool} {item : α} (fails : test item = false)
    (place : Nat) (items : List α) :
    (items.insertIdx place item).filter test = items.filter test := by
  induction place generalizing items with
  | zero => simp [fails]
  | succ place ih =>
    cases items with
    | nil => rfl
    | cons head rest => simp only [List.insertIdx_succ_cons, List.filter_cons, ih]

/-- On its bus they leave alone whoever is there under another name. -/
theorem bus_own_change (own : change.OwnTo adapter owner) :
    ((state.change change).bus adapter).subscriptions.filter (·.owner ≠ owner) =
      (state.bus adapter).subscriptions.filter (·.owner ≠ owner) := by
  obtain same | ⟨request, asked, served⟩ := bus_change state change adapter
  · rw [same]
  · rw [served]
    cases change with
    | subscribe id kind name priority code =>
      obtain ⟨rfl, rfl⟩ := own
      obtain rfl : .subscribe kind name priority code = request := by
        simpa [Change.request?] using asked
      exact filter_insertIdx (by simp) _ _
    | unsubscribeOwner id name =>
      obtain ⟨rfl, rfl⟩ := own
      obtain rfl : .unsubscribeOwner name = request := by simpa [Change.request?] using asked
      simp [EventBus.serve, EventBus.unsubscribeOwner]
    | unsubscribe id subscription => exact own.elim
    | _ => cases asked

/-- However many changes of its own a plugin makes, what is registered for others
stays as it was. -/
theorem Unclaimed.own_reaches (unclaimed : state.Unclaimed adapter) (owned : state.Owned)
    (reaches : state.ReachesBy (Change.OwnTo adapter owner) later) :
    SameElsewhere adapter owner state later where
  toSameOnHost := unclaimed.spares_reaches owned (reaches.mono fun _ own => own.spares)
  adapters other apart := reaches.keeps (fun later => later.adapter other = state.adapter other)
    (fun _ _ own same => (adapter_own_change own apart).trans same) rfl
  bus := reaches.keeps (fun later => (later.bus adapter).subscriptions.filter (·.owner ≠ owner) =
      (state.bus adapter).subscriptions.filter (·.owner ≠ owner))
    (fun _ _ own same => (bus_own_change own).trans same) rfl

end State
end PluginBridge
