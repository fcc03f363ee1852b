import Mathlib.Data.List.InsertIdx
import PluginBridge.Proofs.State.Adapters

/-! Where registrations come from. Nothing gets registered by itself: what is in a
registry after some changes was there before, or one of the changes has put it
there. -/
namespace PluginBridge.State
open Host (Registry Listener Offer listenersFrom)

/-- What a change can make of the host's registry. -/
inductive Registering (registry : Registry) (change : Change) : Registry → Prop where
  | same : Registering registry change registry
  | dropListeners (stays : Listener → Bool) :
      Registering registry change { registry with listeners := registry.listeners.filter stays }
  | dropCommands (stays : Offer → Bool) :
      Registering registry change { registry with commands := registry.commands.filter stays }
  | listen {owner : String} {kind : HostEventKind} {code : CodeId}
      (asked : change = .listen owner kind code) :
      Registering registry change (registry.addListener owner kind (.code code)).1
  | attach {adapter : AdapterId} (kinds : List HostEventKind) (asked : change = .attach adapter) :
      Registering registry change { registry with
        listeners := registry.listeners ++
          listenersFrom Adapter.owner (.adapter adapter) registry.nextListener kinds
        nextListener := registry.nextListener + kinds.length }
  | offer {owner name : String} {aliases : List String} {code : CodeId}
      (asked : change = .offer owner name aliases code)
      (free : registry.takenLabel? name aliases = none) :
      Registering registry change (registry.addCommand ⟨owner, name, aliases, .code code⟩)
  | register {adapter : AdapterId} {command : Command}
      (asked : change = .register adapter command)
      (free : registry.takenLabel? command.name command.aliases = none) :
      Registering registry change (registry.addCommand (State.offer adapter command))

theorem registry_change (state : State) (change : Change) :
    Registering state.host.registry change (state.change change).host.registry := by
  cases change with
  | listen owner kind code =>
    simp only [State.change]
    cases accepted : state.host.addListener owner kind (.code code) with
    | error refusal => exact .same
    | ok result =>
      obtain ⟨-, -, same⟩ := Host.addListener_ok accepted
      simp only [tried, same]
      exact .listen rfl
  | offer owner name aliases code =>
    simp only [State.change]
    cases accepted : state.host.addCommand ⟨owner, name, aliases, .code code⟩ with
    | error refusal => exact .same
    | ok result =>
      obtain ⟨-, free, same⟩ := Host.addCommand_ok accepted
      simp only [tried, same]
      exact .offer rfl free
  | attach adapter =>
    obtain same | ⟨host, listeners, record, -, -, added, attached⟩ := attach_cases state adapter
    · rw [State.change, same]
      exact .same
    · obtain ⟨-, rfl⟩ := Host.addListeners_ok added
      rw [State.change, attached]
      exact .attach _ rfl
  | detach adapter =>
    obtain ⟨-, same⟩ | ⟨record, -, detached⟩ := detach_cases state adapter
    · rw [State.change, same]
      exact .same
    · rw [State.change, detached, host_log, host_updateAdapter]
      simp only [updateHost, Host.removeListeners_eq]
      exact .dropListeners _
  | register adapter command =>
    obtain same | ⟨record, -, free, registered⟩ := register_cases state adapter command
    · rw [State.change, same]
      exact .same
    · rw [State.change, registered]
      exact .register rfl free
  | unregister adapter name =>
    obtain ⟨-, same⟩ | ⟨known, -, -, removed⟩ := unregister_cases state adapter name
    · rw [State.change, same]
      exact .same
    · rw [State.change, removed]
      exact .dropCommands _
  | unlisten id => exact .dropListeners _
  | unlistenOwner owner => exact .dropListeners _
  | withdraw name => exact .dropCommands _
  | tell user message => cases user <;> exact .same
  | _ => exact .same

theorem listener_origin (state : State) (change : Change) {listener : Listener}
    (member : listener ∈ (state.change change).host.registry.listeners) :
    listener ∈ state.host.registry.listeners ∨
      (∃ owner kind code, change = .listen owner kind code ∧ listener.hearer = .code code) ∨
      ∃ adapter, change = .attach adapter ∧ listener.hearer = .adapter adapter := by
  have made := registry_change state change
  generalize (state.change change).host.registry = registry at member made
  cases made with
  | same => exact .inl member
  | dropListeners stays => exact .inl (List.mem_of_mem_filter member)
  | dropCommands stays => exact .inl member
  | offer asked free => exact .inl member
  | register asked free => exact .inl member
  | listen asked =>
    obtain old | new := List.mem_append.mp member
    · exact .inl old
    · obtain rfl := List.mem_singleton.mp new
      exact .inr (.inl ⟨_, _, _, asked, rfl⟩)
  | attach kinds asked =>
    obtain old | new := List.mem_append.mp member
    · exact .inl old
    · exact .inr (.inr ⟨_, asked, Host.hearer_listenersFrom new⟩)

theorem offer_origin (state : State) (change : Change) {offer : Offer}
    (member : offer ∈ (state.change change).host.registry.commands) :
    offer ∈ state.host.registry.commands ∨
      (∃ owner name aliases code, change = .offer owner name aliases code ∧
        offer = ⟨owner, name, aliases, .code code⟩) ∨
      ∃ adapter command, change = .register adapter command ∧
        offer = State.offer adapter command := by
  have made := registry_change state change
  generalize (state.change change).host.registry = registry at member made
  cases made with
  | same => exact .inl member
  | dropListeners stays => exact .inl member
  | dropCommands stays => exact .inl (List.mem_of_mem_filter member)
  | listen asked => exact .inl member
  | attach kinds asked => exact .inl member
  | offer asked free =>
    obtain old | new := List.mem_append.mp member
    · exact .inl old
    · exact .inr (.inl ⟨_, _, _, _, asked, List.mem_singleton.mp new⟩)
  | register asked free =>
    obtain old | new := List.mem_append.mp member
    · exact .inl old
    · exact .inr (.inr ⟨_, _, asked, List.mem_singleton.mp new⟩)

theorem subscription_origin (state : State) (change : Change) (id : AdapterId)
    {subscription : Subscription}
    (member : subscription ∈ ((state.change change).bus id).subscriptions) :
    subscription ∈ (state.bus id).subscriptions ∨
      ∃ kind owner priority code, change = .subscribe id kind owner priority code ∧
        subscription = ⟨(state.bus id).nextId, owner, priority, kind, code⟩ := by
  obtain same | ⟨request, asked, served⟩ := bus_change state change id
  · exact .inl (same ▸ member)
  · rw [served] at member
    cases request with
    | subscribe kind owner priority code =>
      obtain new | old := List.eq_or_mem_of_mem_insertIdx member
      · refine .inr ⟨kind, owner, priority, code, ?_, new⟩
        unfold Change.request? at asked
        split at asked <;> simp_all
      · exact .inl old
    | unsubscribe number => exact .inl (List.mem_of_mem_filter member)
    | unsubscribeOwner owner => exact .inl (List.mem_of_mem_filter member)

section
variable {state : State} {adapter : AdapterId}

/-- An adapter that had no listener has been attached if it has one. -/
theorem listener_since (changes : List Change)
    (silent : ∀ listener ∈ state.host.registry.listeners, listener.hearer ≠ .adapter adapter) :
    ∀ listener ∈ (changes.foldl change state).host.registry.listeners,
      listener.hearer = .adapter adapter → .attach adapter ∈ changes := by
  induction changes generalizing state with
  | nil => exact fun listener member hears => absurd hears (silent listener member)
  | cons change rest ih =>
    intro listener member hears
    by_cases now : change = .attach adapter
    · exact now ▸ List.mem_cons_self
    · refine List.mem_cons_of_mem _ (ih (fun known there heard => ?_) listener member hears)
      obtain old | ⟨_, _, code, -, coded⟩ | ⟨other, asked, hearing⟩ :=
        listener_origin state change there
      · exact silent known old heard
      · rw [heard] at coded
        cases coded
      · rw [heard] at hearing
        cases hearing
        exact now asked

/-- An adapter that had no command has registered those it has. -/
theorem offer_since (changes : List Change)
    (idle : ∀ offer ∈ state.host.registry.commands, ∀ command,
      offer.executor ≠ .adapter adapter command) :
    ∀ offer ∈ (changes.foldl change state).host.registry.commands, ∀ command,
      offer.executor = .adapter adapter command → .register adapter command ∈ changes := by
  suffices since : ∀ offer ∈ (changes.foldl change state).host.registry.commands,
      offer ∈ state.host.registry.commands ∨ ∀ command,
        offer.executor = .adapter adapter command → .register adapter command ∈ changes by
    intro offer member command runs
    obtain old | new := since offer member
    · exact absurd runs (idle offer old command)
    · exact new command runs
  clear idle
  induction changes generalizing state with
  | nil => exact fun offer member => .inl member
  | cons change rest ih =>
    intro offer member
    obtain early | late := ih offer member
    · obtain old | ⟨_, _, _, _, -, rfl⟩ | ⟨other, command, asked, rfl⟩ :=
        offer_origin state change early
      · exact .inl old
      · exact .inr fun command runs => by cases runs
      · refine .inr fun known runs => ?_
        cases runs
        exact asked ▸ List.mem_cons_self
    · exact .inr fun command runs => List.mem_cons_of_mem _ (late command runs)

/-- An owner that had no listener on a bus has subscribed those it has. -/
theorem subscription_since {owner : String} (changes : List Change)
    (absent : ∀ subscription ∈ (state.bus adapter).subscriptions, subscription.owner ≠ owner) :
    ∀ subscription ∈ ((changes.foldl change state).bus adapter).subscriptions,
      subscription.owner = owner → .subscribe adapter subscription.kind owner
        subscription.priority subscription.code ∈ changes := by
  suffices since : ∀ subscription ∈ ((changes.foldl change state).bus adapter).subscriptions,
      subscription ∈ (state.bus adapter).subscriptions ∨
        .subscribe adapter subscription.kind subscription.owner subscription.priority
          subscription.code ∈ changes by
    rintro subscription member rfl
    obtain old | new := since subscription member
    · exact absurd rfl (absent subscription old)
    · exact new
  clear absent
  induction changes generalizing state with
  | nil => exact fun subscription member => .inl member
  | cons change rest ih =>
    intro subscription member
    obtain early | late := ih subscription member
    · obtain old | ⟨kind, name, priority, code, asked, rfl⟩ :=
        subscription_origin state change adapter early
      · exact .inl old
      · exact .inr (asked ▸ List.mem_cons_self)
    · exact .inr (List.mem_cons_of_mem _ late)

/-- Changes that attach no adapter leave one silent that was so. -/
theorem ReachesBy.silent {allowed : Change → Prop} {later : State}
    (reaches : state.ReachesBy allowed later) (never : ¬ allowed (.attach adapter))
    (silent : ∀ listener ∈ state.host.registry.listeners, listener.hearer ≠ .adapter adapter) :
    ∀ listener ∈ later.host.registry.listeners, listener.hearer ≠ .adapter adapter := by
  obtain ⟨changes, allows, rfl⟩ := reaches
  intro listener member hears
  exact never (allows _ (listener_since changes silent listener member hears))

/-- Changes that subscribe nobody leave a name off a bus that was not on it. -/
theorem ReachesBy.absent {allowed : Change → Prop} {later : State} {owner : String}
    (reaches : state.ReachesBy allowed later)
    (never : ∀ kind priority code, ¬ allowed (.subscribe adapter kind owner priority code))
    (absent : ∀ subscription ∈ (state.bus adapter).subscriptions, subscription.owner ≠ owner) :
    ∀ subscription ∈ (later.bus adapter).subscriptions, subscription.owner ≠ owner := by
  obtain ⟨changes, allows, rfl⟩ := reaches
  intro subscription member owns
  exact never _ _ _ (allows _ (subscription_since changes absent subscription member owns))

end

end PluginBridge.State
