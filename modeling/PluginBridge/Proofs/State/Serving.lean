import PluginBridge.Proofs.State.Ownership

/-! Hosts that nobody but adapters serves with joins and quits. An adapter gets its listeners
all at once and gives them up all at once, so the adapters stand in one line for both,
whoever attaches and detaches them. -/
namespace PluginBridge

/-- Changes that leave it to the adapters who hears of joins and quits: code does not listen
for them, and nobody else takes listeners away. -/
def Change.LeavesLine : Change → Prop
  | .listen _ kind _ => kind ≠ .join ∧ kind ≠ .quit
  | .unlisten _ | .unlistenOwner _ => False
  | _ => True

namespace State
variable {state later : State}

/-- The join and quit listeners of the host are those of some adapters, each of which has
one of both, in the order in which the adapters were attached. -/
structure ServedBy (state : State) (adapters : List AdapterId) : Prop where
  once : adapters.Nodup
  joins : (state.host.registry.listenersOf .join).map (·.hearer) = adapters.map .adapter
  quits : (state.host.registry.listenersOf .quit).map (·.hearer) = adapters.map .adapter

namespace ServedBy
variable {adapters : List AdapterId}

theorem initial (kind : Host.Kind) (surroundings : Surroundings) :
    (State.initial kind surroundings).ServedBy [] :=
  ⟨List.nodup_nil, rfl, rfl⟩

theorem of_same (served : state.ServedBy adapters)
    (same : later.host.registry.listeners = state.host.registry.listeners) :
    later.ServedBy adapters := by
  refine ⟨served.once, ?_, ?_⟩ <;> unfold Host.Registry.listenersOf <;> rw [same]
  · exact served.joins
  · exact served.quits

/-- An adapter that has no listeners does not stand in line. -/
theorem detached (served : state.ServedBy adapters) (owned : state.Owned) {id : AdapterId}
    (free : (state.adapter id).listeners = []) : id ∉ adapters := by
  intro member
  have hears : .adapter id ∈ (state.host.registry.listenersOf .join).map (·.hearer) :=
    served.joins ▸ List.mem_map_of_mem member
  obtain ⟨listener, among, hearer⟩ := List.mem_map.mp hears
  have held := (owned.held listener (List.mem_of_mem_filter among) id).mp hearer
  rw [free] at held
  cases held

/-- An adapter that is attached now stands last in line. -/
theorem attach (served : state.ServedBy adapters) (owned : state.Owned) (id : AdapterId) :
    (state.attach id).1.ServedBy adapters ∨ (state.attach id).1.ServedBy (adapters ++ [id]) := by
  obtain same | ⟨host, listeners, record, -, free, added, attached⟩ := attach_cases state id
  · exact .inl (by rwa [same])
  · obtain ⟨-, rfl⟩ := Host.addListeners_ok added
    have last (kind : HostEventKind) (heard : kind = .join ∨ kind = .quit) :
        ((Host.listenersFrom Adapter.owner (.adapter id) state.host.registry.nextListener
          (Adapter.kinds state.host.kind)).filter (·.kind = kind)).map (·.hearer) =
            [.adapter id] := by
      obtain rfl | rfl := heard <;> cases state.host.kind <;>
        simp [Adapter.kinds, Host.listenersFrom]
    refine .inr ⟨List.nodup_append.mpr ⟨served.once, List.nodup_singleton id, ?_⟩, ?_, ?_⟩
    · rintro other member _ now rfl
      exact served.detached owned free (List.mem_singleton.mp now ▸ member)
    all_goals
      rw [attached, host_log, host_updateAdapter]
      simp only [Host.Registry.listenersOf, List.filter_append, List.map_append]
    · exact congrArg₂ (· ++ ·) served.joins (last .join (.inl rfl))
    · exact congrArg₂ (· ++ ·) served.quits (last .quit (.inr rfl))

/-- An adapter that is detached leaves the line. -/
theorem detach (served : state.ServedBy adapters) (owned : state.Owned) (id : AdapterId) :
    (state.detach id).ServedBy (adapters.filter (· ≠ id)) := by
  have stay (kind : HostEventKind)
      (heard : (state.host.registry.listenersOf kind).map (·.hearer) = adapters.map .adapter) :
      ((state.detach id).host.registry.listenersOf kind).map (·.hearer) =
        (adapters.filter (· ≠ id)).map .adapter := by
    have others := congrArg (List.filter fun hearer => decide (hearer ≠ .adapter id)) heard
    rw [List.filter_map, List.filter_map] at others
    rw [Host.Registry.listenersOf, owned.detach_listeners, List.filter_comm,
      ← Host.Registry.listenersOf]
    simpa [Function.comp_def] using others
  exact ⟨served.once.filter _, stay .join served.joins, stay .quit served.quits⟩

theorem change (served : state.ServedBy adapters) (owned : state.Owned) {change : Change}
    (leaves : change.LeavesLine) : ∃ more, (state.change change).ServedBy more := by
  cases change with
  | attach id => exact (served.attach owned id).elim (⟨_, ·⟩) (⟨_, ·⟩)
  | detach id => exact ⟨_, served.detach owned id⟩
  | listen owner kind code =>
    simp only [State.change]
    cases accepted : state.host.addListener owner kind (.code code) with
    | error refusal => exact ⟨adapters, served⟩
    | ok result =>
      obtain ⟨-, -, same⟩ := Host.addListener_ok accepted
      obtain ⟨noJoin, noQuit⟩ := leaves
      refine ⟨adapters, served.once, ?_, ?_⟩ <;>
        simp only [tried, same, Host.Registry.listenersOf, Host.Registry.addListener,
          List.filter_append]
      · simpa [noJoin, Host.Registry.listenersOf] using served.joins
      · simpa [noQuit, Host.Registry.listenersOf] using served.quits
  | unlisten id => exact leaves.elim
  | unlistenOwner owner => exact leaves.elim
  | offer owner name aliases code =>
    simp only [State.change]
    cases accepted : state.host.addCommand ⟨owner, name, aliases, .code code⟩ with
    | error refusal => exact ⟨adapters, served⟩
    | ok result =>
      obtain ⟨-, -, same⟩ := Host.addCommand_ok accepted
      exact ⟨adapters, served.of_same (by simp [tried, same, Host.Registry.addCommand])⟩
  | register id command =>
    obtain same | ⟨record, -, -, registered⟩ := register_cases state id command
    · exact ⟨adapters, by rwa [State.change, same]⟩
    · exact ⟨adapters, served.of_same (by
        simp [State.change, registered, updateHost, Host.Registry.addCommand])⟩
  | unregister id name =>
    obtain ⟨-, same⟩ | ⟨known, -, -, removed⟩ := unregister_cases state id name
    · exact ⟨adapters, by rwa [State.change, same]⟩
    · exact ⟨adapters, served.of_same (by
        simp [State.change, removed, updateHost, Host.removeCommand, Host.Registry.removeCommand])⟩
  | tell user message => cases user <;> exact ⟨adapters, served.of_same rfl⟩
  | _ => exact ⟨adapters, served.of_same rfl⟩

end ServedBy

/-- Whatever a world comes to, as long as only adapters listen to joins and quits and
nobody takes their listeners from them, they are in line in one order for both. -/
theorem servedBy_of_reached {state : State} {kind : Host.Kind} {surroundings : Surroundings}
    (reached : (State.initial kind surroundings).ReachesBy Change.LeavesLine state) :
    ∃ adapters, state.ServedBy adapters := by
  have both := reached.keeps (fun state => state.Owned ∧ ∃ adapters, state.ServedBy adapters)
    (fun state change leaves ⟨owned, adapters, served⟩ =>
      ⟨owned.change change, served.change owned leaves⟩)
    ⟨.initial kind surroundings, [], .initial kind surroundings⟩
  exact both.2

end State
end PluginBridge
