import PluginBridge.Proofs.State.Ownership

/-! An adapter hears the host through a listener for each of its kinds of events, and
it has all of them or none. It knows them by their numbers, while the host knows them
under the one owner that all adapters share. Both records agree as long as nobody else
takes a listener from an adapter. -/
namespace PluginBridge
open Host (Listener)

/-- Code listens here, and no adapter. -/
def Host.Listener.isForeign (listener : Listener) : Bool :=
  match listener.hearer with
  | .code _ => true
  | .adapter _ => false

/-- Whether a change takes a listener from the host, whosever it is. -/
def Change.takes (listener : Listener) : Change → Bool
  | .unlisten number => listener.id = number
  | .unlistenOwner owner => listener.owner = owner
  | _ => false

/-- Whether a change attaches or detaches an adapter. -/
def Change.attaches (id : AdapterId) : Change → Bool
  | .attach adapter | .detach adapter => adapter = id
  | _ => false

theorem Adapter.kinds_nodup (host : Host.Kind) : (Adapter.kinds host).Nodup := by
  cases host <;> decide

namespace State
variable {state later : State} {id : AdapterId}

/-- The listeners through which an adapter hears the host. -/
def heardBy (state : State) (id : AdapterId) : List Listener :=
  state.host.registry.listeners.filter (·.hearer = .adapter id)

/-- Everything may change, but nobody takes a listener from an adapter: neither by its
number nor by the owner it is registered under. -/
def LeavesListeners (state : State) (change : Change) : Prop :=
  ∀ listener ∈ state.host.registry.listeners,
    change.takes listener = true → listener.isForeign = true

/-- Everything may change, but nobody attaches or detaches the adapter, nor takes a
listener from it. -/
def LeavesAdapter (id : AdapterId) (state : State) (change : Change) : Prop :=
  change.attaches id = false ∧ ∀ listener ∈ state.heardBy id, change.takes listener = false

instance (state : State) (change : Change) : Decidable (state.LeavesListeners change) :=
  inferInstanceAs (Decidable (∀ listener ∈ state.host.registry.listeners, _ → _))

/-- Each adapter holds the numbers of its listeners, has one for each of its kinds if it
has any, and has them all under the owner of adapters. -/
structure Whole (state : State) : Prop where
  numbers : ∀ id, (state.heardBy id).map (·.id) = (state.adapter id).listeners
  kinds : ∀ id, (state.adapter id).listeners ≠ [] →
    (state.heardBy id).map (·.kind) = Adapter.kinds state.host.kind
  owner : ∀ id, ∀ listener ∈ state.heardBy id, listener.owner = Adapter.owner

theorem mem_heardBy {listener : Listener} : listener ∈ state.heardBy id ↔
    listener ∈ state.host.registry.listeners ∧ listener.hearer = .adapter id := by
  simp [heardBy]

/-- Taking away listeners that are no adapter's leaves the adapters theirs. -/
theorem heardBy_of_filter {stays : Listener → Bool}
    (same : later.host.registry.listeners = state.host.registry.listeners.filter stays)
    (foreign : ∀ listener ∈ state.heardBy id, stays listener = true) :
    later.heardBy id = state.heardBy id := by
  rw [heardBy, same, List.filter_filter]
  refine List.filter_congr fun listener member => ?_
  by_cases hears : listener.hearer = .adapter id
  · simp [hears, foreign listener (mem_heardBy.mpr ⟨member, hears⟩)]
  · simp [hears]

theorem kind_change (state : State) (change : Change) :
    (state.change change).host.kind = state.host.kind := by
  cases registers : change.registers with
  | true =>
    obtain ⟨registry, adapters, logs, -, same⟩ := registers_change state registers
    rw [same]
  | false =>
    cases change with
    | tell user message => cases user <;> rfl
    | _ => first | rfl | cases registers

/-! ## One adapter at a time -/

theorem attach_attached (attached : (state.adapter id).isAttached = true) :
    state.attach id = (state, .ok ()) := by
  have there : state.hasAdapter id = true := by
    by_contra absent
    rw [adapter_of_absent (by simpa using absent)] at attached
    cases attached
  simp [State.attach, there, attached]

/-- An adapter that is attached has its listeners, or was refused and nothing has
happened. -/
theorem attach_outcome (state : State) (id : AdapterId) :
    ((state.attach id).2 = .ok () ∧ ((state.attach id).1.adapter id).isAttached = true) ∨
      ((state.attach id).2 ≠ .ok () ∧ (state.attach id).1 = state ∧
        (state.adapter id).isAttached = false) := by
  cases attached : (state.adapter id).isAttached with
  | true => exact .inl (by simp [attach_attached attached, attached])
  | false =>
    cases there : state.hasAdapter id with
    | false => exact .inr (by simp [State.attach, there])
    | true =>
      cases added : state.host.addListeners Adapter.owner (.adapter id)
          (Adapter.kinds state.host.kind) with
      | error refusal => exact .inr (by simp [State.attach, there, attached, added])
      | ok result =>
        obtain ⟨host, numbers⟩ := result
        refine .inl ⟨by simp [State.attach, there, attached, added], ?_⟩
        have some : numbers ≠ [] := by
          rw [(Host.addListeners_ok added).1]
          simp [Adapter.kinds, Host.listenersFrom]
        simp only [State.attach, there, attached, added, Bool.not_true, Bool.false_eq_true,
          if_false]
        rw [adapter_log, adapter_updateAdapter_self (by exact there)]
        simpa [Adapter.isAttached] using some

/-- To attach an adapter twice is to attach it once. -/
theorem attach_again (state : State) (id : AdapterId) :
    (state.attach id).1.attach id = state.attach id := by
  obtain ⟨accepted, attached⟩ | ⟨-, same, -⟩ := attach_outcome state id
  · rw [attach_attached attached, ← accepted]
  · rw [same]

theorem isAttached_detach (state : State) (id : AdapterId) :
    ((state.detach id).adapter id).isAttached = false := by
  obtain ⟨free, same⟩ | ⟨record, there, detached⟩ := detach_cases state id
  · rw [same, Adapter.isAttached, free]
    rfl
  · rw [detached, adapter_log, adapter_updateAdapter_self (by exact there)]
    rfl

/-- To detach an adapter twice is to detach it once. -/
theorem detach_again (state : State) (id : AdapterId) :
    (state.detach id).detach id = state.detach id := by
  simp only [State.detach.eq_1 (state.detach id), isAttached_detach, Bool.not_false, if_true]

/-- Listeners for some kinds are one for each of them. -/
theorem kinds_listenersFrom (owner : String) (hearer : Host.Hearer) (kinds : List HostEventKind)
    (first : Host.ListenerId) :
    (Host.listenersFrom owner hearer first kinds).map (·.kind) = kinds ∧
      ∀ listener ∈ Host.listenersFrom owner hearer first kinds, listener.owner = owner := by
  induction kinds generalizing first with
  | nil => exact ⟨rfl, nofun⟩
  | cons kind rest ih =>
    obtain ⟨each, owns⟩ := ih (first + 1)
    exact ⟨congrArg _ each, List.forall_mem_cons.mpr ⟨rfl, owns⟩⟩

/-- The listeners that an adapter gets when it is attached. -/
def newListeners (state : State) (id : AdapterId) : List Listener :=
  Host.listenersFrom Adapter.owner (.adapter id) state.host.registry.nextListener
    (Adapter.kinds state.host.kind)

theorem attach_new (silent : state.heardBy id = []) :
    (state.attach id).1 = state ∨ (state.attach id).1.heardBy id = state.newListeners id ∧
      ((state.attach id).1.adapter id).listeners = (state.newListeners id).map (·.id) := by
  obtain same | ⟨host, numbers, record, there, -, added, attached⟩ := attach_cases state id
  · exact .inl same
  · obtain ⟨rfl, rfl⟩ := Host.addListeners_ok added
    rw [attached]
    refine .inr ⟨?_, ?_⟩
    · simp only [heardBy, host_log, host_updateAdapter, List.filter_append]
      rw [← heardBy, silent, List.nil_append]
      refine List.filter_eq_self.mpr fun listener member => ?_
      simp [Host.hearer_listenersFrom member]
    · rw [adapter_log, adapter_updateAdapter_self (by exact there)]
      rfl

theorem heardBy_attach_ne {adapter : AdapterId} (apart : adapter ≠ id) :
    (state.attach id).1.heardBy adapter = state.heardBy adapter := by
  obtain same | ⟨host, numbers, record, -, -, added, attached⟩ := attach_cases state id
  · rw [same]
  · obtain ⟨rfl, rfl⟩ := Host.addListeners_ok added
    rw [attached]
    simp only [heardBy, host_log, host_updateAdapter, List.filter_append]
    refine (congrArg _ (List.filter_eq_nil_iff.mpr fun listener member => ?_)).trans
      (List.append_nil _)
    simp [Host.hearer_listenersFrom member, apart.symm]

theorem listeners_attach_ne {adapter : AdapterId} (apart : adapter ≠ id) :
    ((state.attach id).1.adapter adapter).listeners = (state.adapter adapter).listeners := by
  obtain same | ⟨host, numbers, record, -, -, -, attached⟩ := attach_cases state id
  · rw [same]
  · rw [attached, adapter_log]
    exact congrArg Adapter.listeners (adapter_updateAdapter_ne apart _)

theorem Owned.heardBy_detach (owned : state.Owned) (id adapter : AdapterId) :
    (state.detach id).heardBy adapter = if adapter = id then [] else state.heardBy adapter := by
  split
  · next mine =>
    subst mine
    rw [heardBy, owned.detach_listeners, List.filter_filter, List.filter_eq_nil_iff]
    exact fun listener member => by simp
  · next apart =>
    refine heardBy_of_filter (owned.detach_listeners id) fun listener member => ?_
    simp [(mem_heardBy.mp member).2, apart]

theorem listeners_detach (state : State) (id adapter : AdapterId) :
    ((state.detach id).adapter adapter).listeners =
      if adapter = id then [] else (state.adapter adapter).listeners := by
  obtain ⟨free, same⟩ | ⟨record, there, detached⟩ := detach_cases state id
  · rw [same]
    split
    · next mine => rw [mine, free]
    · rfl
  · rw [detached, adapter_log]
    split
    · next mine => rw [mine, adapter_updateAdapter_self (by exact there)]
    · next apart => exact congrArg Adapter.listeners (adapter_updateAdapter_ne apart _)

/-- An adapter that a change leaves alone has the listeners that it had, here and at the
host. -/
theorem Owned.heard_change (owned : state.Owned) {change : Change}
    (leaves : state.LeavesAdapter id change) :
    (state.change change).heardBy id = state.heardBy id ∧
      ((state.change change).adapter id).listeners = (state.adapter id).listeners := by
  obtain ⟨free, spared⟩ := leaves
  cases change with
  | attach adapter =>
    have apart : id ≠ adapter := by simpa [Change.attaches, eq_comm] using free
    exact ⟨heardBy_attach_ne apart, listeners_attach_ne apart⟩
  | detach adapter =>
    have apart : id ≠ adapter := by simpa [Change.attaches, eq_comm] using free
    exact ⟨(owned.heardBy_detach adapter id).trans (if_neg apart),
      (listeners_detach state adapter id).trans (if_neg apart)⟩
  | listen owner kind code =>
    simp only [State.change]
    cases accepted : state.host.addListener owner kind (.code code) with
    | error refusal => exact ⟨rfl, rfl⟩
    | ok result =>
      obtain ⟨-, -, same⟩ := Host.addListener_ok accepted
      simp only [tried, same]
      exact ⟨by simp [heardBy, Host.Registry.addListener], rfl⟩
  | unlisten number =>
    refine ⟨heardBy_of_filter rfl fun listener heard => ?_, rfl⟩
    simpa [Change.takes] using spared listener heard
  | unlistenOwner owner =>
    refine ⟨heardBy_of_filter rfl fun listener heard => ?_, rfl⟩
    simpa [Change.takes] using spared listener heard
  | offer owner name aliases code =>
    simp only [State.change]
    cases accepted : state.host.addCommand ⟨owner, name, aliases, .code code⟩ with
    | error refusal => exact ⟨rfl, rfl⟩
    | ok result =>
      obtain ⟨-, -, same⟩ := Host.addCommand_ok accepted
      simp only [tried, same]
      exact ⟨rfl, rfl⟩
  | register adapter command =>
    obtain same | ⟨record, -, -, registered⟩ := register_cases state adapter command
    · rw [State.change, same]
      exact ⟨rfl, rfl⟩
    · rw [State.change, registered]
      exact ⟨rfl, view_updateAdapter Adapter.listeners (fun _ => by rfl) _ _⟩
  | unregister adapter name =>
    obtain ⟨-, same⟩ | ⟨known, -, -, removed⟩ := unregister_cases state adapter name
    · rw [State.change, same]
      exact ⟨rfl, rfl⟩
    · rw [State.change, removed]
      exact ⟨rfl, view_updateAdapter Adapter.listeners (fun _ => by rfl) _ _⟩
  | newAdapter platform consoleName logEvents =>
    exact ⟨rfl, view_addAdapter Adapter.listeners (fun _ _ _ => rfl) _ _ _ _⟩
  | construct platform data settings code =>
    exact ⟨rfl, view_addAdapter Adapter.listeners (fun _ _ _ => rfl) platform _ _ _⟩
  | subscribe | unsubscribe | unsubscribeOwner =>
    exact ⟨rfl, view_updateAdapter Adapter.listeners (fun _ => by rfl) _ _⟩
  | tell user message => cases user <;> exact ⟨rfl, rfl⟩
  | _ => exact ⟨rfl, rfl⟩

namespace Whole

theorem initial (kind : Host.Kind) (surroundings : Surroundings) :
    (State.initial kind surroundings).Whole :=
  ⟨fun _ => rfl, fun _ some => absurd rfl some, nofun⟩

variable (whole : state.Whole)
include whole

theorem of_same (heard : ∀ id, later.heardBy id = state.heardBy id)
    (numbers : ∀ id, (later.adapter id).listeners = (state.adapter id).listeners)
    (kind : later.host.kind = state.host.kind) : later.Whole where
  numbers id := by rw [heard, numbers, whole.numbers]
  kinds id some := by rw [heard, kind, whole.kinds id (numbers id ▸ some)]
  owner id listener := by
    rw [heard]
    exact whole.owner id listener

theorem heardBy_eq_nil_iff : state.heardBy id = [] ↔ (state.adapter id).listeners = [] := by
  rw [← whole.numbers id, List.map_eq_nil_iff]

/-- All new listeners are those of the adapter that is attached, so that the others have what they
had. -/
theorem attach (id : AdapterId) : (state.attach id).1.Whole := by
  cases attached : (state.adapter id).isAttached with
  | true => rwa [attach_attached attached]
  | false =>
    have free : (state.adapter id).listeners = [] := by simpa [Adapter.isAttached] using attached
    have kind : (state.attach id).1.host.kind = state.host.kind := kind_change state (.attach id)
    obtain same | ⟨mine, held⟩ := attach_new (whole.heardBy_eq_nil_iff.mpr free)
    · rwa [same]
    refine ⟨fun adapter => ?_, fun adapter some => ?_, fun adapter listener member => ?_⟩
    · obtain rfl | apart := eq_or_ne adapter id
      · rw [mine, held]
      · rw [heardBy_attach_ne apart, listeners_attach_ne apart, whole.numbers]
    · obtain rfl | apart := eq_or_ne adapter id
      · rw [mine, kind]
        exact (kinds_listenersFrom ..).1
      · rw [listeners_attach_ne apart] at some
        rw [heardBy_attach_ne apart, kind, whole.kinds adapter some]
    · obtain rfl | apart := eq_or_ne adapter id
      · rw [mine] at member
        exact (kinds_listenersFrom ..).2 listener member
      · rw [heardBy_attach_ne apart] at member
        exact whole.owner adapter listener member

theorem detach (owned : state.Owned) (id : AdapterId) : (state.detach id).Whole := by
  have kind : (state.detach id).host.kind = state.host.kind := kind_change state (.detach id)
  refine ⟨fun adapter => ?_, fun adapter some => ?_, fun adapter listener member => ?_⟩
  · rw [owned.heardBy_detach, listeners_detach]
    split
    · rfl
    · exact whole.numbers adapter
  · rw [listeners_detach] at some
    rw [owned.heardBy_detach, kind]
    split at some
    · exact absurd rfl some
    · next apart => rw [if_neg apart, whole.kinds adapter some]
  · rw [owned.heardBy_detach] at member
    split at member
    · cases member
    · exact whole.owner adapter listener member

theorem change (owned : state.Owned) (change : Change) (leaves : state.LeavesListeners change) :
    (state.change change).Whole := by
  have spared (id : AdapterId) (listener : Listener) (heard : listener ∈ state.heardBy id) :
      change.takes listener = false := by
    obtain ⟨member, hears⟩ := mem_heardBy.mp heard
    by_contra taken
    simpa [Listener.isForeign, hears] using leaves listener member (by simpa using taken)
  have frame (free : ∀ id, change.attaches id = false) : (state.change change).Whole :=
    whole.of_same (fun id => (owned.heard_change ⟨free id, spared id⟩).1)
      (fun id => (owned.heard_change ⟨free id, spared id⟩).2) (kind_change state change)
  cases change with
  | attach adapter => exact whole.attach adapter
  | detach adapter => exact whole.detach owned adapter
  | _ => exact frame fun _ => rfl

/-- An adapter that is attached has one listener for each of its kinds, and one that is not
has none. -/
theorem all_or_none (id : AdapterId) :
    ((state.adapter id).isAttached = true → (state.heardBy id).map (·.kind) =
      Adapter.kinds state.host.kind) ∧
    ((state.adapter id).isAttached = false → state.heardBy id = []) := by
  refine ⟨fun attached => whole.kinds id ?_, fun detached => whole.heardBy_eq_nil_iff.mpr ?_⟩
  · simpa [Adapter.isAttached] using attached
  · simpa [Adapter.isAttached] using detached

/-- Of those who hear a kind of event, one stands for each attached adapter that listens to
it, and nobody for the others. -/
theorem heard_once (id : AdapterId) (kind : HostEventKind) :
    (state.host.registry.listenersOf kind).countP (·.hearer = .adapter id) =
      if (state.adapter id).isAttached = true ∧ kind ∈ Adapter.kinds state.host.kind then 1
      else 0 := by
  have counted : (state.host.registry.listenersOf kind).countP (·.hearer = .adapter id) =
      ((state.heardBy id).map (·.kind)).count kind := by
    rw [List.count, List.countP_map, heardBy, Host.Registry.listenersOf, List.countP_filter,
      List.countP_filter]
    exact List.countP_congr fun listener _ => by simp [and_comm]
  rw [counted]
  cases attached : (state.adapter id).isAttached with
  | true =>
    rw [(whole.all_or_none id).1 attached, (Adapter.kinds_nodup _).count]
    simp
  | false => simp [(whole.all_or_none id).2 attached]

end Whole

theorem RunsBy.whole {kind : Host.Kind} {surroundings : Surroundings}
    (run : (State.initial kind surroundings).RunsBy LeavesListeners state) : state.Whole := by
  have law : state.Owned ∧ state.Whole := by
    refine run.keeps (fun state => state.Owned ∧ state.Whole) ?_ ⟨.initial .., .initial ..⟩
    rintro state change leaves ⟨owned, whole⟩
    exact ⟨owned.change change, whole.change owned change leaves⟩
  exact law.2

end State
end PluginBridge
