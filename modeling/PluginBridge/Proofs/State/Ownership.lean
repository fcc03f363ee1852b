import PluginBridge.Proofs.State.Adapters

/-! All adapters register under one owner, so whose a listener or a command is can
be told from the adapters alone: each holds the numbers of its listeners and the
names of its commands. A listener hears for an adapter exactly if the adapter holds
its number, and a command that runs for an adapter has a name that it holds. Each
change keeps it so, whoever makes it. -/
namespace PluginBridge.State
open Host (Listener Offer)
variable {state later : State}

structure Owned (state : State) : Prop where
  sound : state.host.registry.Sound
  /-- The numbers that adapters hold have been given out. -/
  given : ∀ adapter, ∀ id ∈ (state.adapter adapter).listeners,
    id < state.host.registry.nextListener
  held : ∀ listener ∈ state.host.registry.listeners, ∀ adapter,
    listener.hearer = .adapter adapter ↔ listener.id ∈ (state.adapter adapter).listeners
  named : ∀ offer ∈ state.host.registry.commands, ∀ adapter command,
    offer.executor = .adapter adapter command → offer.name ∈ (state.adapter adapter).commands

namespace Owned

theorem initial (kind : Host.Kind) (surroundings : Surroundings) :
    (State.initial kind surroundings).Owned where
  sound := .empty
  given := by simp [State.initial, adapter, noAdapter, Adapter.detached]
  held := by simp [State.initial, Host.empty, Host.Registry.empty]
  named := by simp [State.initial, Host.empty, Host.Registry.empty]

/-- Registrations that no adapter has part in change nothing about what adapters
hold. -/
theorem apart (owned : state.Owned) (sound : later.host.registry.Sound)
    (onward : state.host.registry.nextListener ≤ later.host.registry.nextListener)
    (same : ∀ id, (later.adapter id).listeners = (state.adapter id).listeners ∧
      (later.adapter id).commands = (state.adapter id).commands)
    (listeners : ∀ listener ∈ later.host.registry.listeners,
      listener ∈ state.host.registry.listeners ∨
        state.host.registry.nextListener ≤ listener.id ∧ ∀ id, listener.hearer ≠ .adapter id)
    (commands : ∀ offer ∈ later.host.registry.commands, offer ∈ state.host.registry.commands ∨
      ∀ id command, offer.executor ≠ .adapter id command) : later.Owned where
  sound := sound
  given := by
    intro adapter id member
    rw [(same adapter).1] at member
    exact Nat.lt_of_lt_of_le (owned.given adapter id member) onward
  held := by
    intro listener member adapter
    rw [(same adapter).1]
    obtain old | ⟨new, foreign⟩ := listeners listener member
    · exact owned.held listener old adapter
    · refine ⟨fun hears => absurd hears (foreign adapter), fun holds => ?_⟩
      exact absurd (owned.given adapter _ holds) (Nat.not_lt_of_le new)
  named := by
    intro offer member adapter command runs
    rw [(same adapter).2]
    obtain old | foreign := commands offer member
    · exact owned.named offer old adapter command runs
    · exact absurd runs (foreign adapter command)

/-- What is no registration changes nothing about what adapters hold. -/
theorem of_same (owned : state.Owned) (registry : later.host.registry = state.host.registry)
    (same : ∀ id, (later.adapter id).listeners = (state.adapter id).listeners ∧
      (later.adapter id).commands = (state.adapter id).commands) : later.Owned := by
  refine owned.apart (registry ▸ owned.sound) (Nat.le_of_eq (by rw [registry])) same ?_ ?_
  · exact fun listener member => .inl (registry ▸ member)
  · exact fun offer member => .inl (registry ▸ member)

theorem fresh_not_held (owned : state.Owned) {listener : Listener}
    (new : state.host.registry.nextListener ≤ listener.id) (adapter : AdapterId) :
    listener.id ∉ (state.adapter adapter).listeners :=
  fun holds => absurd (owned.given adapter _ holds) (Nat.not_lt_of_le new)

/-- A listener that was there before has an older number than those that are added. -/
theorem attach (owned : state.Owned) (id : AdapterId) : (state.attach id).1.Owned := by
  obtain same | ⟨host, listeners, record, there, free, added, attached⟩ := attach_cases state id
  · rw [same]
    exact owned
  · obtain ⟨rfl, rfl⟩ := Host.addListeners_ok added
    rw [attached]
    refine ⟨owned.sound.addListeners .., ?_, ?_, ?_⟩
    · intro adapter number member
      rw [adapter_log] at member
      by_cases mine : adapter = id
      · subst mine
        rw [adapter_updateAdapter_self (by exact there)] at member
        obtain ⟨listener, new, rfl⟩ := List.mem_map.mp member
        exact (Host.id_listenersFrom new).2
      · rw [adapter_updateAdapter_ne mine] at member
        exact Nat.lt_of_lt_of_le (owned.given adapter number member) (Nat.le_add_right ..)
    · intro listener member adapter
      rw [adapter_log]
      by_cases mine : adapter = id
      · subst mine
        rw [adapter_updateAdapter_self (by exact there)]
        obtain old | new := List.mem_append.mp member
        · have silent : listener.hearer ≠ .adapter adapter := by
            rw [Ne, owned.held listener old, free]
            exact List.not_mem_nil
          refine ⟨fun hears => absurd hears silent, fun holds => ?_⟩
          obtain ⟨other, new, numbered⟩ := List.mem_map.mp holds
          have late := (Host.id_listenersFrom new).1
          rw [numbered] at late
          exact absurd (owned.sound.numbered listener old) (Nat.not_lt_of_le late)
        · exact ⟨fun _ => List.mem_map_of_mem new, fun _ => Host.hearer_listenersFrom new⟩
      · rw [adapter_updateAdapter_ne mine]
        obtain old | new := List.mem_append.mp member
        · exact owned.held listener old adapter
        · rw [Host.hearer_listenersFrom new]
          refine ⟨fun hears => ?_, fun holds => ?_⟩
          · injection hears with hears
            exact absurd hears.symm mine
          · exact absurd holds (owned.fresh_not_held (Host.id_listenersFrom new).1 adapter)
    · intro offer member adapter command runs
      rw [adapter_log, view_updateAdapter Adapter.commands fun _ => by rfl]
      exact owned.named offer member adapter command runs

theorem detach (owned : state.Owned) (id : AdapterId) : (state.detach id).Owned := by
  obtain ⟨-, same⟩ | ⟨record, there, detached⟩ := detach_cases state id
  · rw [same]
    exact owned
  · rw [detached]
    simp only [updateHost, Host.removeListeners_eq]
    refine ⟨owned.sound.keepListeners _, ?_, ?_, ?_⟩
    · intro adapter number member
      rw [adapter_log] at member
      by_cases mine : adapter = id
      · subst mine
        rw [adapter_updateAdapter_self (by exact there)] at member
        cases member
      · rw [adapter_updateAdapter_ne mine] at member
        exact owned.given adapter number member
    · intro listener member adapter
      obtain ⟨old, stays⟩ := List.mem_filter.mp member
      rw [adapter_log]
      by_cases mine : adapter = id
      · subst mine
        rw [adapter_updateAdapter_self (by exact there), owned.held listener old]
        simpa using stays
      · rw [adapter_updateAdapter_ne mine]
        exact owned.held listener old adapter
    · intro offer member adapter command runs
      rw [adapter_log, view_updateAdapter Adapter.commands fun _ => by rfl]
      exact owned.named offer member adapter command runs

theorem register (owned : state.Owned) (id : AdapterId) (command : Command) :
    (state.register id command).1.Owned := by
  obtain same | ⟨record, there, free, registered⟩ := register_cases state id command
  · rw [same]
    exact owned
  · rw [registered]
    refine ⟨owned.sound.addCommand free, ?_, ?_, ?_⟩
    · intro adapter
      rw [adapter_log, view_updateAdapter Adapter.listeners fun _ => by rfl]
      exact owned.given adapter
    · intro listener member adapter
      rw [adapter_log, view_updateAdapter Adapter.listeners fun _ => by rfl]
      exact owned.held listener member adapter
    · intro known member adapter other runs
      rw [adapter_log]
      by_cases mine : adapter = id
      · subst mine
        rw [adapter_updateAdapter_self (by exact there)]
        obtain old | new := List.mem_append.mp member
        · exact List.mem_append_left _ (owned.named known old adapter other runs)
        · obtain rfl := List.mem_singleton.mp new
          exact List.mem_append_right _ (List.mem_singleton_self _)
      · rw [adapter_updateAdapter_ne mine]
        obtain old | new := List.mem_append.mp member
        · exact owned.named known old adapter other runs
        · obtain rfl := List.mem_singleton.mp new
          injection runs with named
          exact absurd named.symm mine

/-- Only one copy of a name is taken from the adapter, but then no command of this name is left. -/
theorem unregister (owned : state.Owned) (id : AdapterId) (name : String) :
    (state.unregister id name).1.Owned := by
  obtain ⟨-, same⟩ | ⟨known, there, -, removed⟩ := unregister_cases state id name
  · rw [same]
    exact owned
  · rw [removed]
    refine ⟨owned.sound.keepCommands _, ?_, ?_, ?_⟩
    · intro adapter
      rw [view_updateAdapter Adapter.listeners fun _ => by rfl]
      exact owned.given adapter
    · intro listener member adapter
      rw [view_updateAdapter Adapter.listeners fun _ => by rfl]
      exact owned.held listener member adapter
    · intro offer member adapter command runs
      obtain ⟨old, stays⟩ := List.mem_filter.mp member
      have holds := owned.named offer old adapter command runs
      by_cases mine : adapter = id
      · subst mine
        rw [adapter_updateAdapter_self (by exact there)]
        refine (List.mem_erase_of_ne ?_).mpr holds
        rintro same
        simp [same] at stays
      · rw [adapter_updateAdapter_ne mine]
        exact holds

/-- Each change leaves every adapter with what it has registered. -/
theorem change (owned : state.Owned) (change : Change) : (state.change change).Owned := by
  cases change with
  | listen owner kind code =>
    simp only [State.change]
    cases accepted : state.host.addListener owner kind (.code code) with
    | error refusal => exact owned
    | ok result =>
      obtain ⟨-, -, same⟩ := Host.addListener_ok accepted
      simp only [tried, same]
      refine owned.apart (owned.sound.addListeners owner (.code code) [kind])
        (Nat.le_succ _) (fun _ => ⟨rfl, rfl⟩) ?_ fun offer member => .inl member
      intro listener member
      obtain old | new := List.mem_append.mp member
      · exact .inl old
      · obtain rfl := List.mem_singleton.mp new
        exact .inr ⟨Nat.le_refl _, by simp⟩
  | offer owner name aliases code =>
    simp only [State.change]
    cases accepted : state.host.addCommand ⟨owner, name, aliases, .code code⟩ with
    | error refusal => exact owned
    | ok result =>
      obtain ⟨-, free, same⟩ := Host.addCommand_ok accepted
      simp only [tried, same]
      refine owned.apart (owned.sound.addCommand free) (Nat.le_refl _)
        (fun _ => ⟨rfl, rfl⟩) (fun listener member => .inl member) ?_
      intro offer member
      obtain old | new := List.mem_append.mp member
      · exact .inl old
      · obtain rfl := List.mem_singleton.mp new
        exact .inr (by simp)
  | unlisten listener =>
    exact owned.apart (owned.sound.keepListeners _) (Nat.le_refl _) (fun _ => ⟨rfl, rfl⟩)
      (fun listener member => .inl (List.mem_of_mem_filter member)) fun offer member => .inl member
  | unlistenOwner owner =>
    exact owned.apart (owned.sound.keepListeners _) (Nat.le_refl _) (fun _ => ⟨rfl, rfl⟩)
      (fun listener member => .inl (List.mem_of_mem_filter member)) fun offer member => .inl member
  | withdraw name =>
    exact owned.apart (owned.sound.keepCommands _) (Nat.le_refl _) (fun _ => ⟨rfl, rfl⟩)
      (fun listener member => .inl member) fun offer member =>
        .inl (List.mem_of_mem_filter member)
  | attach adapter => exact owned.attach adapter
  | detach adapter => exact owned.detach adapter
  | register adapter command => exact owned.register adapter command
  | unregister adapter name => exact owned.unregister adapter name
  | newAdapter platform consoleName logEvents =>
    exact owned.of_same rfl fun id => ⟨view_addAdapter Adapter.listeners (fun _ _ _ => rfl) ..,
      view_addAdapter Adapter.commands (fun _ _ _ => rfl) ..⟩
  | construct platform data settings code =>
    exact owned.of_same rfl fun id =>
      ⟨view_addAdapter Adapter.listeners (fun _ _ _ => rfl) platform ..,
        view_addAdapter Adapter.commands (fun _ _ _ => rfl) platform ..⟩
  | subscribe adapter kind owner priority code =>
    exact owned.of_same rfl fun id => ⟨view_updateAdapter Adapter.listeners (fun _ => by rfl) ..,
      view_updateAdapter Adapter.commands (fun _ => by rfl) ..⟩
  | unsubscribe adapter subscription =>
    exact owned.of_same rfl fun id => ⟨view_updateAdapter Adapter.listeners (fun _ => by rfl) ..,
      view_updateAdapter Adapter.commands (fun _ => by rfl) ..⟩
  | unsubscribeOwner adapter owner =>
    exact owned.of_same rfl fun id => ⟨view_updateAdapter Adapter.listeners (fun _ => by rfl) ..,
      view_updateAdapter Adapter.commands (fun _ => by rfl) ..⟩
  | tell user message => cases user <;> exact owned.of_same rfl fun _ => ⟨rfl, rfl⟩
  | _ => exact owned.of_same rfl fun _ => ⟨rfl, rfl⟩

/-- A detached adapter takes its own listeners away from the host, and no others. -/
theorem detach_listeners (owned : state.Owned) (id : AdapterId) :
    (state.detach id).host.registry.listeners =
      state.host.registry.listeners.filter (·.hearer ≠ .adapter id) := by
  obtain ⟨free, same⟩ | ⟨record, -, detached⟩ := detach_cases state id
  · rw [same, eq_comm, List.filter_eq_self]
    refine fun listener member => decide_eq_true fun hears => ?_
    have held := (owned.held listener member id).mp hears
    rw [free] at held
    cases held
  · rw [detached]
    simp only [host_log, host_updateAdapter, updateHost, Host.removeListeners_eq]
    refine List.filter_congr fun listener member => ?_
    simp [owned.held listener member id]

end Owned

/-- In every state that a world can come to, each adapter has what it holds. -/
theorem Reachable.owned (reachable : state.Reachable) : state.Owned :=
  reachable.law Owned Owned.initial fun _ change owned => owned.change change

end PluginBridge.State
