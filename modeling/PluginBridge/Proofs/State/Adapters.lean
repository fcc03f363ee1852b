import PluginBridge.Proofs.EventBus.Ledger
import PluginBridge.Proofs.Host.Registry
import PluginBridge.Proofs.State.Changes

/-! Adapters by their numbers. An operation on one adapter leaves the others alone,
and each operation is opened once here, into what it may have done. The bus of an
adapter only ever serves requests, so every bus that a world can come to is one
that has served some requests. -/
namespace PluginBridge

/-- What a change asks of an adapter's bus. -/
def Change.request? (id : AdapterId) : Change → Option BusRequest
  | .subscribe adapter kind owner priority code =>
    if adapter = id then some (.subscribe kind owner priority code) else none
  | .unsubscribe adapter subscription =>
    if adapter = id then some (.unsubscribe subscription) else none
  | .unsubscribeOwner adapter owner =>
    if adapter = id then some (.unsubscribeOwner owner) else none
  | _ => none

/-- Changes that register something or take it away again. -/
def Change.registers : Change → Bool
  | .listen .. | .unlisten _ | .unlistenOwner _ | .offer .. | .withdraw _ | .attach _ | .detach _
  | .subscribe .. | .unsubscribe .. | .unsubscribeOwner .. | .register .. | .unregister .. => true
  | _ => false

namespace State
variable {α : Type} {state : State}

@[simp] theorem adapter_log (state : State) (record : Log.Record) (id : AdapterId) :
    (state.log record).adapter id = state.adapter id := rfl

@[simp] theorem host_log (state : State) (record : Log.Record) :
    (state.log record).host = state.host := rfl

@[simp] theorem host_updateAdapter (state : State) (id : AdapterId)
    (change : Adapter → Adapter) : (state.updateAdapter id change).host = state.host := rfl

theorem adapter_of_absent {id : AdapterId} (absent : state.hasAdapter id = false) :
    state.adapter id = noAdapter := by
  have beyond : state.adapters.length ≤ id := by simpa [hasAdapter] using absent
  simp [adapter, List.getElem?_eq_none beyond]

theorem adapter_updateAdapter_self {id : AdapterId} (there : state.hasAdapter id = true)
    (change : Adapter → Adapter) :
    (state.updateAdapter id change).adapter id = change (state.adapter id) := by
  have inside : id < state.adapters.length := by simpa [hasAdapter] using there
  simp [adapter, updateAdapter, inside]

theorem adapter_updateAdapter_ne {id other : AdapterId} (apart : other ≠ id)
    (change : Adapter → Adapter) :
    (state.updateAdapter id change).adapter other = state.adapter other := by
  simp [adapter, updateAdapter, apart.symm]

/-- What a change leaves alone in an adapter stays in all of them. -/
theorem view_updateAdapter (view : Adapter → α) {change : Adapter → Adapter}
    (same : ∀ adapter, view (change adapter) = view adapter) (id other : AdapterId) :
    view ((state.updateAdapter id change).adapter other) = view (state.adapter other) := by
  by_cases named : other = id
  · subst named
    cases there : state.hasAdapter other with
    | true => rw [adapter_updateAdapter_self there, same]
    | false =>
      have beyond : state.adapters.length ≤ other := by simpa [hasAdapter] using there
      simp [adapter, updateAdapter, beyond]
  · rw [adapter_updateAdapter_ne named]

theorem adapter_addAdapter (state : State) (added : Adapter) (id : AdapterId) :
    (state.addAdapter added).1.adapter id =
      if id = state.adapters.length then added else state.adapter id := by
  unfold adapter addAdapter
  split
  · next last => subst last; simp
  · next apart =>
    obtain inside | beyond := Nat.lt_or_gt_of_ne apart
    · simp [List.getElem?_append_left inside]
    · have past : (state.adapters ++ [added]).length ≤ id := by
        simpa using Nat.succ_le_of_lt beyond
      simp [List.getElem?_eq_none past, List.getElem?_eq_none (Nat.le_of_lt beyond)]

/-- A new adapter has as little as one that does not exist. -/
theorem view_addAdapter (view : Adapter → α)
    (plain : ∀ platform consoleName logEvents,
      view (.detached platform consoleName logEvents) = view noAdapter)
    (platform consoleName : String) (logEvents : Bool) (id : AdapterId) :
    view ((state.addAdapter (.detached platform consoleName logEvents)).1.adapter id) =
      view (state.adapter id) := by
  rw [adapter_addAdapter]
  split
  · next last => rw [plain, adapter_of_absent (by simp [hasAdapter, last])]
  · rfl

/-- An adapter that is attached now gets all its listeners, or nothing happens. -/
theorem attach_cases (state : State) (id : AdapterId) :
    (state.attach id).1 = state ∨ ∃ host listeners record,
      state.hasAdapter id = true ∧ (state.adapter id).listeners = [] ∧
      state.host.addListeners Adapter.owner (.adapter id) (Adapter.kinds state.host.kind) =
        .ok (host, listeners) ∧
      (state.attach id).1 = ({ state with host }.updateAdapter id
        fun adapter => { adapter with listeners }).log record := by
  unfold attach
  split
  · exact .inl rfl
  · next there =>
    split
    · exact .inl rfl
    · next detached =>
      split
      · exact .inl rfl
      · next host listeners added =>
        refine .inr ⟨host, listeners, _, by simpa using there, ?_, added, rfl⟩
        simpa [Adapter.isAttached] using detached

/-- An adapter that is detached gives up all its listeners. -/
theorem detach_cases (state : State) (id : AdapterId) :
    ((state.adapter id).listeners = [] ∧ state.detach id = state) ∨ ∃ record,
      state.hasAdapter id = true ∧
      state.detach id = ((state.updateHost fun host =>
        host.removeListeners (state.adapter id).listeners).updateAdapter id
          fun adapter => { adapter with listeners := [] }).log record := by
  unfold detach
  dsimp only
  split
  · next detached => exact .inl ⟨by simpa [Adapter.isAttached] using detached, rfl⟩
  · next attached =>
    refine .inr ⟨_, ?_, rfl⟩
    by_contra absent
    rw [Bool.not_eq_true] at absent
    rw [adapter_of_absent absent] at attached
    simp [Adapter.isAttached, noAdapter, Adapter.detached] at attached

/-- A command that is registered was free to be taken, and the adapter keeps its
name. -/
theorem register_cases (state : State) (id : AdapterId) (command : Command) :
    (state.register id command).1 = state ∨ ∃ record,
      state.hasAdapter id = true ∧
      state.host.registry.takenLabel? command.name command.aliases = none ∧
      (state.register id command).1 = ((state.updateHost fun host =>
        { host with registry := host.registry.addCommand (offer id command) }).updateAdapter id
          fun adapter => { adapter with commands := adapter.commands ++ [command.name] }).log
            record := by
  unfold register
  split
  · exact .inl rfl
  · next there =>
    split
    · exact .inl rfl
    · next host done added =>
      obtain ⟨-, free, rfl⟩ := Host.addCommand_ok added
      exact .inr ⟨_, by simpa using there, free, rfl⟩

/-- A command that is unregistered leaves the host and the adapter's names. -/
theorem unregister_cases (state : State) (id : AdapterId) (name : String) :
    ((state.adapter id).commands.find? (Text.sameLabel · name) = none ∧
        (state.unregister id name).1 = state) ∨ ∃ known,
      state.hasAdapter id = true ∧
      (state.adapter id).commands.find? (Text.sameLabel · name) = some known ∧
      (state.unregister id name).1 = (state.updateHost fun host =>
        (host.removeCommand known).1).updateAdapter id
          fun adapter => { adapter with commands := (state.adapter id).commands.erase known } := by
  unfold unregister
  dsimp only
  split
  · next missing => exact .inl ⟨missing, rfl⟩
  · next known found =>
    refine .inr ⟨known, ?_, found, rfl⟩
    by_contra absent
    rw [Bool.not_eq_true] at absent
    rw [adapter_of_absent absent] at found
    simp [noAdapter, Adapter.detached] at found

/-- All that registering something comes to, or taking it away again, is another registry of
the host, other adapters under the same numbers, and more in the log. -/
theorem registers_change (state : State) {change : Change} (registers : change.registers = true) :
    ∃ registry adapters logs, adapters.length = state.adapters.length ∧
      state.change change =
        { state with host := { state.host with registry }, adapters, logs } := by
  have modified (id : AdapterId) (one : Adapter → Adapter) :
      (state.adapters.modify id one).length = state.adapters.length :=
    List.length_modify ..
  cases change with
  | listen owner kind code =>
    simp only [State.change]
    cases accepted : state.host.addListener owner kind (.code code) with
    | error refusal => exact ⟨_, _, _, rfl, rfl⟩
    | ok result =>
      obtain ⟨-, -, same⟩ := Host.addListener_ok accepted
      simp only [tried, same]
      exact ⟨_, _, _, rfl, rfl⟩
  | offer owner name aliases code =>
    simp only [State.change]
    cases accepted : state.host.addCommand ⟨owner, name, aliases, .code code⟩ with
    | error refusal => exact ⟨_, _, _, rfl, rfl⟩
    | ok result =>
      obtain ⟨-, -, same⟩ := Host.addCommand_ok accepted
      simp only [tried, same]
      exact ⟨_, _, _, rfl, rfl⟩
  | attach adapter =>
    obtain same | ⟨host, listeners, record, -, -, added, attached⟩ := attach_cases state adapter
    · exact ⟨_, _, _, rfl, same⟩
    · obtain ⟨-, rfl⟩ := Host.addListeners_ok added
      exact ⟨_, _, _, modified .., attached⟩
  | detach adapter =>
    obtain ⟨-, same⟩ | ⟨record, -, detached⟩ := detach_cases state adapter
    · exact ⟨_, _, _, rfl, same⟩
    · simp only [updateHost, Host.removeListeners_eq] at detached
      exact ⟨_, _, _, modified .., detached⟩
  | register adapter command =>
    obtain same | ⟨record, -, -, registered⟩ := register_cases state adapter command
    · exact ⟨_, _, _, rfl, same⟩
    · exact ⟨_, _, _, modified .., registered⟩
  | unregister adapter name =>
    obtain ⟨-, same⟩ | ⟨known, -, -, removed⟩ := unregister_cases state adapter name
    · exact ⟨_, _, _, rfl, same⟩
    · exact ⟨_, _, _, modified .., removed⟩
  | unlisten | unlistenOwner | withdraw => exact ⟨_, _, _, rfl, rfl⟩
  | subscribe | unsubscribe | unsubscribeOwner => exact ⟨_, _, _, modified .., rfl⟩
  | _ => cases registers

@[simp] theorem adapter_tried {ε : Type} (state : State) (outcome : Except ε (Host × α))
    (id : AdapterId) : (state.tried outcome).adapter id = state.adapter id := by
  cases outcome <;> rfl

/-- An adapter whose bus has served a request, if it exists. -/
theorem bus_served (state : State) (id other : AdapterId) (request : BusRequest) :
    let served := state.updateAdapter id fun adapter =>
      { adapter with bus := ((state.bus id).serve request).1 }
    served.bus other = state.bus other ∨
      other = id ∧ served.bus other = ((state.bus other).serve request).1 := by
  intro served
  by_cases named : other = id
  · subst named
    cases there : state.hasAdapter other with
    | true => exact .inr ⟨rfl, congrArg Adapter.bus (adapter_updateAdapter_self there _)⟩
    | false =>
      have beyond : state.adapters.length ≤ other := by simpa [hasAdapter] using there
      left
      simp [served, bus, adapter, updateAdapter, beyond]
  · exact .inl (congrArg Adapter.bus (adapter_updateAdapter_ne named _))

/-- In one change a bus serves one request at most. -/
theorem bus_change (state : State) (change : Change) (id : AdapterId) :
    (state.change change).bus id = state.bus id ∨ ∃ request, change.request? id = some request ∧
      (state.change change).bus id = ((state.bus id).serve request).1 := by
  cases change with
  | listen owner kind code => exact .inl (congrArg Adapter.bus (adapter_tried ..))
  | offer owner name aliases code => exact .inl (congrArg Adapter.bus (adapter_tried ..))
  | newAdapter platform consoleName logEvents =>
    exact .inl (view_addAdapter Adapter.bus (fun _ _ _ => rfl) ..)
  | construct platform data settings code =>
    exact .inl (view_addAdapter Adapter.bus (fun _ _ _ => rfl) platform ..)
  | attach adapter =>
    left
    obtain same | ⟨host, listeners, record, -, -, -, attached⟩ := attach_cases state adapter
    · exact congrArg (bus · id) same
    · simp only [State.change, attached, bus, adapter_log]
      exact view_updateAdapter Adapter.bus (fun _ => by rfl) adapter id
  | detach adapter =>
    left
    obtain ⟨-, same⟩ | ⟨record, -, detached⟩ := detach_cases state adapter
    · exact congrArg (bus · id) same
    · simp only [State.change, detached, bus, adapter_log]
      exact view_updateAdapter Adapter.bus (fun _ => by rfl) adapter id
  | register adapter command =>
    left
    obtain same | ⟨record, -, -, registered⟩ := register_cases state adapter command
    · exact congrArg (bus · id) same
    · simp only [State.change, registered, bus, adapter_log]
      exact view_updateAdapter Adapter.bus (fun _ => by rfl) adapter id
  | unregister adapter name =>
    left
    obtain ⟨-, same⟩ | ⟨known, -, -, removed⟩ := unregister_cases state adapter name
    · exact congrArg (bus · id) same
    · simp only [State.change, removed, bus]
      exact view_updateAdapter Adapter.bus (fun _ => by rfl) adapter id
  | subscribe adapter kind owner priority code =>
    exact (bus_served state adapter id (.subscribe kind owner priority code)).imp_right
      fun mine => ⟨_, if_pos mine.1.symm, mine.2⟩
  | unsubscribe adapter subscription =>
    exact (bus_served state adapter id (.unsubscribe subscription)).imp_right
      fun mine => ⟨_, if_pos mine.1.symm, mine.2⟩
  | unsubscribeOwner adapter owner =>
    exact (bus_served state adapter id (.unsubscribeOwner owner)).imp_right
      fun mine => ⟨_, if_pos mine.1.symm, mine.2⟩
  | _ => exact .inl rfl

/-- What a bus holds once more requests have been served. -/
theorem bus_reaches {later : State} (reaches : state.Reaches later) (id : AdapterId) :
    ∃ requests : List BusRequest, later.bus id =
      requests.foldl (fun bus request => (bus.serve request).1) (state.bus id) := by
  refine reaches.keeps (fun later => ∃ requests : List BusRequest, later.bus id =
    requests.foldl (fun bus request => (bus.serve request).1) (state.bus id)) ?_ ⟨[], rfl⟩
  rintro later change - ⟨requests, held⟩
  obtain same | ⟨request, -, served⟩ := bus_change later change id
  · exact ⟨requests, same.trans held⟩
  · exact ⟨requests ++ [request], by rw [served, held, List.foldl_append]; rfl⟩

/-- Every bus that a world can come to has served some requests. -/
theorem Reachable.bus (reachable : state.Reachable) (id : AdapterId) :
    ∃ requests, state.bus id = EventBus.after requests := by
  obtain ⟨kind, surroundings, reaches⟩ := reachable
  exact bus_reaches reaches id

end State
end PluginBridge
