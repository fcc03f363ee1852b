import PluginBridge.Proofs.State.Isolation
import PluginBridge.Proofs.State.Origins

/-! The host's commands and the names that adapters hold are two records of one
thing. They are changed one after the other and compared without regard to letter
case, and all adapters share one owner, so nothing but their agreement makes a
removal by name safe. They agree as long as nobody takes a command away from the
host by a name that an adapter holds. -/
namespace PluginBridge
open Host (Offer)
open Text

theorem Host.Offer.Apart.names {first second : Offer} (apart : first.Apart second) :
    sameLabel first.name second.name = false := by
  by_contra same
  have answers := Offer.answersTo_congr (by simpa using same) first.answersTo_name
  have silent := apart second.name answers
  rw [Offer.answersTo_name] at silent
  cases silent

theorem Host.Offer.Apart.ne {first second : Offer} (apart : first.Apart second) :
    first ≠ second := by
  rintro rfl
  simpa using apart.names

/-- The name by which a change removes a command from the host, whosever it is. -/
def Change.withdrawn? : Change → Option String
  | .withdraw name => some name
  | _ => none

/-- What alone passes a test is found, wherever it stands. -/
theorem find?_of_only {α : Type} {test : α → Bool} {items : List α} {item : α}
    (member : item ∈ items) (passes : test item = true)
    (only : ∀ other ∈ items, test other = true → other = item) :
    items.find? test = some item := by
  obtain ⟨other, found⟩ := Option.isSome_iff_exists.mp
    (List.find?_isSome.mpr ⟨item, member, passes⟩)
  rw [found, only other (List.mem_of_find?_eq_some found) (List.find?_some found)]

/-- Where no label runs two commands, it does not matter in which order they are
looked through. -/
theorem Host.Registry.Sound.command?_perm {registry : Host.Registry} (sound : registry.Sound)
    {order : List Offer} (perm : order.Perm registry.commands) (label : String) :
    order.find? (·.answersTo label) = registry.command? label := by
  unfold command?
  cases found : registry.commands.find? (·.answersTo label) with
  | none =>
    rw [List.find?_eq_none] at found ⊢
    exact fun offer member => found offer (perm.mem_iff.mp member)
  | some offer =>
    have answers := List.find?_some found
    have member := List.mem_of_find?_eq_some found
    refine find?_of_only (perm.mem_iff.mpr member) answers fun other there too => ?_
    exact sound.unique (perm.mem_iff.mp there) member too answers

/-- A label is taken if some command answers to it. -/
theorem Host.Registry.takenLabel?_isSome {registry : Host.Registry} {name : String}
    {aliases : List String} : (registry.takenLabel? name aliases).isSome = true ↔
      ∃ label ∈ name :: aliases, ∃ known ∈ registry.commands, known.answersTo label = true := by
  simp only [takenLabel?, command?, List.find?_isSome]

/-- A host takes a command unless it is closed or one of the labels is taken. -/
theorem Host.addCommand_refused {host : Host} {offer : Offer} :
    (∃ refusal, host.addCommand offer = .error refusal) ↔ host.closed = true ∨
      ∃ label ∈ offer.name :: offer.aliases, ∃ known ∈ host.registry.commands,
        known.answersTo label = true := by
  rw [← Registry.takenLabel?_isSome]
  unfold addCommand Host.register
  cases host.closed <;>
    cases taken : host.registry.takenLabel? offer.name offer.aliases <;>
    simp [taken, Except.map]

namespace State
variable {state : State} {id : AdapterId} {offer other : Offer}

/-- The commands that run for an adapter, in the order they were registered. -/
def offersOf (state : State) (id : AdapterId) : List Offer :=
  state.host.registry.commands.filter (·.runsFor id)

/-- Some adapter holds a name, in whatever letter case. -/
def Holds (state : State) (name : String) : Prop :=
  ∃ adapter ∈ state.adapters, ∃ held ∈ adapter.commands, sameLabel held name = true

instance (state : State) (name : String) : Decidable (state.Holds name) :=
  inferInstanceAs (Decidable (∃ adapter ∈ state.adapters, ∃ held ∈ adapter.commands, _))

theorem holds_of_mem {name held : String} (member : held ∈ (state.adapter id).commands)
    (same : sameLabel held name = true) : state.Holds name := by
  unfold adapter at member
  cases found : state.adapters[id]? with
  | none => simp [found, noAdapter, Adapter.detached] at member
  | some adapter =>
    rw [found] at member
    exact ⟨adapter, List.mem_of_getElem? found, held, member, same⟩

/-- Each adapter holds the names of the commands that run for it. -/
def InStep (state : State) : Prop :=
  ∀ id, (state.adapter id).commands = (state.offersOf id).map (·.name)

/-- The state in which some commands have gone, all of them an adapter's. -/
def leaving (state : State) (id : AdapterId) (stays : Offer → Bool) : State :=
  (state.updateHost fun host => { host with registry := { host.registry with
    commands := host.registry.commands.filter stays } }).updateAdapter id
      fun adapter => { adapter with commands := ((state.offersOf id).filter stays).map (·.name) }

theorem mem_offersOf : offer ∈ state.offersOf id ↔
    offer ∈ state.host.registry.commands ∧ offer.runsFor id = true := List.mem_filter

/-- A registration fails if and only if the host refuses it. -/
theorem register_refused (there : state.hasAdapter id = true) (command : Command) :
    (state.register id command).2 ≠ .ok () ↔
      ∃ refusal, state.host.addCommand (State.offer id command) = .error refusal := by
  simp only [register, there, Bool.not_true, Bool.false_eq_true, if_false]
  cases state.host.addCommand (State.offer id command) <;> simp

/-- A registration that fails changes nothing, and one that succeeds puts the command
behind all others. -/
theorem register_done (state : State) (id : AdapterId) (command : Command) :
    ((state.register id command).2 ≠ .ok () → (state.register id command).1 = state) ∧
      ((state.register id command).2 = .ok () →
        (state.register id command).1.host.registry.commands =
          state.host.registry.commands ++ [State.offer id command]) := by
  unfold register
  split
  · simp
  · split
    · simp
    · next host done added =>
      obtain ⟨-, -, rfl⟩ := Host.addCommand_ok added
      simp [Host.Registry.addCommand]

namespace Owned
variable (owned : state.Owned)
include owned

/-- The label of a command tells it from all others. -/
theorem only (known : offer ∈ state.host.registry.commands)
    (member : other ∈ state.host.registry.commands)
    (same : sameLabel other.name offer.name = true) : other = offer :=
  owned.sound.unique member known (Offer.answersTo_congr same other.answersTo_name)
    offer.answersTo_name

theorem sameLabel_iff_eq (known : offer ∈ state.host.registry.commands)
    (member : other ∈ state.host.registry.commands) :
    sameLabel other.name offer.name = true ↔ other = offer :=
  ⟨owned.only known member, fun same => same ▸ sameLabel_refl _⟩

theorem offersOf_apart (id : AdapterId) : (state.offersOf id).Pairwise Offer.Apart :=
  owned.sound.apart.sublist List.filter_sublist

theorem names_distinct (id : AdapterId) :
    ((state.offersOf id).map (·.name)).Pairwise fun first second =>
      sameLabel first second = false :=
  List.pairwise_map.mpr ((owned.offersOf_apart id).imp Offer.Apart.names)

/-- Removing a command by its name removes that command and no other. -/
theorem removeCommand_eq (known : offer ∈ state.host.registry.commands) :
    state.host.removeCommand offer.name = ({ state.host with registry := { state.host.registry with
      commands := state.host.registry.commands.filter (· ≠ offer) } }, true) := by
  have stays : state.host.registry.commands.filter (fun other => !sameLabel other.name offer.name) =
      state.host.registry.commands.filter (· ≠ offer) := by
    refine List.filter_congr fun other member => ?_
    rw [Bool.eq_iff_iff]
    simp [← owned.sameLabel_iff_eq known member]
  have found : state.host.registry.commands.any (fun other => sameLabel other.name offer.name) =
      true := List.any_eq_true.mpr ⟨offer, known, sameLabel_refl _⟩
  simp only [Host.removeCommand, Host.Registry.removeCommand, stays, found]

/-- So does striking out its name. -/
theorem erase_name (mine : offer ∈ state.offersOf id) :
    ((state.offersOf id).map (·.name)).erase offer.name =
      ((state.offersOf id).filter (· ≠ offer)).map (·.name) := by
  have nodup : ((state.offersOf id).map (·.name)).Nodup := by
    refine (owned.names_distinct id).imp fun apart same => ?_
    simp [same] at apart
  rw [nodup.erase_eq_filter, List.filter_map]
  refine congrArg _ (List.filter_congr fun other member => ?_)
  have known := (mem_offersOf.mp mine).1
  have there := (mem_offersOf.mp member).1
  rw [Bool.eq_iff_iff]
  simp only [Function.comp_apply, bne_iff_ne, decide_eq_true_eq, ne_eq, not_iff_not]
  exact ⟨fun same => owned.only known there (same ▸ sameLabel_refl _), congrArg _⟩

end Owned

namespace InStep
variable (inStep : state.InStep)
include inStep

theorem mem_commands {name : String} :
    name ∈ (state.adapter id).commands ↔ ∃ offer ∈ state.offersOf id, offer.name = name := by
  rw [inStep id, List.mem_map]

theorem find?_some (owned : state.Owned) (mine : offer ∈ state.offersOf id) {name : String}
    (same : sameLabel offer.name name = true) :
    (state.adapter id).commands.find? (sameLabel · name) = some offer.name := by
  refine find?_of_only (inStep.mem_commands.mpr ⟨offer, mine, rfl⟩) same fun held there too => ?_
  obtain ⟨other, member, rfl⟩ := inStep.mem_commands.mp there
  rw [owned.only (mem_offersOf.mp mine).1 (mem_offersOf.mp member).1
    (sameLabel_trans too (sameLabel_comm .. ▸ same))]

/-- A command that the adapter has under the name goes, from the host and from the
adapter's names. -/
theorem unregister_eq (owned : state.Owned) (mine : offer ∈ state.offersOf id) {name : String}
    (same : sameLabel offer.name name = true) :
    state.unregister id name = (state.leaving id (· ≠ offer), true) := by
  unfold unregister
  simp only [inStep.find?_some owned mine same]
  simp only [owned.removeCommand_eq (mem_offersOf.mp mine).1, inStep id, owned.erase_name mine]
  rfl

/-- If it has none under the name, nothing happens. -/
theorem unregister_none {name : String}
    (none : ∀ offer ∈ state.offersOf id, sameLabel offer.name name = false) :
    state.unregister id name = (state, false) := by
  have missing : (state.adapter id).commands.find? (sameLabel · name) = Option.none := by
    rw [inStep id, List.find?_eq_none]
    intro held member
    obtain ⟨offer, mine, rfl⟩ := List.mem_map.mp member
    simp [none offer mine]
  simp only [unregister, missing]

theorem hasAdapter (mine : offer ∈ state.offersOf id) : state.hasAdapter id = true := by
  by_contra absent
  have holds := inStep.mem_commands.mpr ⟨offer, mine, rfl⟩
  rw [adapter_of_absent (by simpa using absent)] at holds
  cases holds

/-! ## What the changes keep -/

theorem of_same {later : State} (commands : ∀ id, later.offersOf id = state.offersOf id)
    (names : ∀ id, (later.adapter id).commands = (state.adapter id).commands) : later.InStep :=
  fun id => by rw [names, commands, inStep]

theorem leaving (there : state.hasAdapter id = true) {stays : Offer → Bool}
    (own : ∀ offer, stays offer = false → offer.runsFor id = true) :
    (state.leaving id stays).InStep := by
  intro adapter
  by_cases mine : adapter = id
  · subst mine
    rw [State.leaving, adapter_updateAdapter_self (by exact there)]
    simp [offersOf, updateHost, List.filter_filter, Bool.and_comm]
  · rw [State.leaving, adapter_updateAdapter_ne mine]
    refine (inStep adapter).trans (congrArg _ ?_)
    simp only [offersOf, updateHost, host_updateAdapter, List.filter_filter]
    refine List.filter_congr fun offer member => ?_
    cases keeps : stays offer with
    | true => simp
    | false =>
      obtain ⟨command, runs⟩ := Offer.runsFor_iff.mp (own offer keeps)
      simp [Offer.runsFor, runs, Ne.symm mine]

theorem register (command : Command) : (state.register id command).1.InStep := by
  obtain same | ⟨record, there, -, registered⟩ := register_cases state id command
  · rwa [same]
  · rw [registered]
    intro adapter
    rw [adapter_log]
    by_cases mine : adapter = id
    · subst mine
      rw [adapter_updateAdapter_self (by exact there)]
      have own : (State.offer adapter command).runsFor adapter = true := by
        simp [State.offer, Offer.runsFor]
      refine (congrArg (· ++ [command.name]) (inStep adapter)).trans ?_
      simp only [offersOf, updateHost, host_log, host_updateAdapter, Host.Registry.addCommand,
        List.filter_append, List.map_append, List.filter_singleton, own]
      rfl
    · rw [adapter_updateAdapter_ne mine]
      have foreign : (State.offer id command).runsFor adapter = false := by
        simp [State.offer, Offer.runsFor, Ne.symm mine]
      refine (inStep adapter).trans (congrArg _ ?_)
      simp [offersOf, updateHost, Host.Registry.addCommand, foreign]

theorem unregister (owned : state.Owned) (name : String) :
    (state.unregister id name).1.InStep := by
  by_cases held : ∃ offer ∈ state.offersOf id, sameLabel offer.name name = true
  · obtain ⟨offer, mine, same⟩ := held
    rw [inStep.unregister_eq owned mine same]
    refine inStep.leaving (inStep.hasAdapter mine) fun other gone => ?_
    obtain rfl : other = offer := by simpa using gone
    exact (mem_offersOf.mp mine).2
  · rw [inStep.unregister_none (by simpa using held)]
    exact inStep

theorem withdraw {name : String} (free : ¬ state.Holds name) :
    (state.change (.withdraw name)).InStep := by
  refine inStep.of_same (fun id => ?_) fun _ => rfl
  simp only [offersOf, State.change, updateHost, Host.removeCommand, Host.Registry.removeCommand,
    List.filter_filter]
  refine List.filter_congr fun offer member => ?_
  cases runs : offer.runsFor id with
  | false => simp
  | true =>
    have held := inStep.mem_commands.mpr ⟨offer, mem_offersOf.mpr ⟨member, runs⟩, rfl⟩
    simpa using fun same => free (holds_of_mem held same)

end InStep

/-- Everything may change, but nobody removes a command from the host by a name that
an adapter holds. -/
def LeavesNames (state : State) (change : Change) : Prop :=
  ∀ name ∈ change.withdrawn?, ¬ state.Holds name

instance (state : State) (change : Change) : Decidable (state.LeavesNames change) :=
  inferInstanceAs (Decidable (∀ name ∈ change.withdrawn?, ¬ state.Holds name))

theorem InStep.change (inStep : state.InStep) (owned : state.Owned) (change : Change)
    (leaves : state.LeavesNames change) : (state.change change).InStep := by
  cases change with
  | withdraw name => exact inStep.withdraw (leaves name rfl)
  | register adapter command => exact inStep.register command
  | unregister adapter name => exact inStep.unregister owned name
  | offer owner name aliases code =>
    simp only [State.change]
    cases accepted : state.host.addCommand ⟨owner, name, aliases, .code code⟩ with
    | error refusal => exact inStep
    | ok result =>
      obtain ⟨-, -, same⟩ := Host.addCommand_ok accepted
      simp only [tried, same]
      refine inStep.of_same (fun id => ?_) fun _ => rfl
      simp [offersOf, Host.Registry.addCommand, Offer.runsFor]
  | listen owner kind code =>
    simp only [State.change]
    cases accepted : state.host.addListener owner kind (.code code) with
    | error refusal => exact inStep
    | ok result =>
      obtain ⟨-, -, same⟩ := Host.addListener_ok accepted
      simp only [tried, same]
      exact inStep.of_same (fun _ => rfl) fun _ => rfl
  | attach adapter =>
    obtain same | ⟨host, listeners, record, -, -, added, attached⟩ := attach_cases state adapter
    · rwa [State.change, same]
    · obtain ⟨-, rfl⟩ := Host.addListeners_ok added
      rw [State.change, attached]
      exact inStep.of_same (fun _ => rfl) (view_updateAdapter Adapter.commands (fun _ => by rfl) _)
  | detach adapter =>
    obtain ⟨-, same⟩ | ⟨record, -, detached⟩ := detach_cases state adapter
    · rwa [State.change, same]
    · rw [State.change, detached]
      simp only [updateHost, Host.removeListeners_eq]
      exact inStep.of_same (fun _ => rfl) (view_updateAdapter Adapter.commands (fun _ => by rfl) _)
  | newAdapter platform consoleName logEvents =>
    exact inStep.of_same (fun _ => rfl) (view_addAdapter Adapter.commands (fun _ _ _ => rfl) _ _ _)
  | construct platform data settings code =>
    exact inStep.of_same (fun _ => rfl)
      (view_addAdapter Adapter.commands (fun _ _ _ => rfl) platform _ _)
  | subscribe | unsubscribe | unsubscribeOwner =>
    exact inStep.of_same (fun _ => rfl) (view_updateAdapter Adapter.commands (fun _ => by rfl) _)
  | tell user message => cases user <;> exact inStep.of_same (fun _ => rfl) fun _ => rfl
  | _ => exact inStep.of_same (fun _ => rfl) fun _ => rfl

/-! ## All commands of an adapter -/

theorem updateAdapter_same {change : Adapter → Adapter}
    (same : change (state.adapter id) = state.adapter id) :
    state.updateAdapter id change = state := by
  have each : state.adapters.modify id change = state.adapters := by
    refine List.ext_getElem? fun place => ?_
    rw [List.getElem?_modify]
    cases found : state.adapters[place]? with
    | none => rfl
    | some known =>
      by_cases here : id = place
      · subst here
        simp only [adapter, found, Option.getD_some] at same
        simp [same]
      · simp [here]
  rw [updateAdapter, each]

theorem offersOf_leaving (state : State) (id : AdapterId) (stays : Offer → Bool) :
    (state.leaving id stays).offersOf id = (state.offersOf id).filter stays := by
  simp only [offersOf, leaving, updateHost, host_updateAdapter, List.filter_filter, Bool.and_comm]

theorem leaving_leaving (state : State) (id : AdapterId) (first second : Offer → Bool) :
    (state.leaving id first).leaving id second =
      state.leaving id fun offer => first offer && second offer := by
  rw [leaving, offersOf_leaving]
  simp only [leaving, updateHost, updateAdapter, List.modify_modify_eq, List.filter_filter,
    Bool.and_comm]
  rfl

namespace InStep

/-- An adapter without commands has none to lose. -/
theorem leaving_none (inStep : state.InStep) (none : state.offersOf id = []) :
    state.leaving id (!·.runsFor id) = state := by
  have idle := List.filter_eq_nil_iff.mp none
  have all : state.host.registry.commands.filter (!·.runsFor id) = state.host.registry.commands :=
    List.filter_eq_self.mpr fun offer member => by simpa using idle offer member
  have names : (state.adapter id).commands = [] := by rw [inStep id, none, List.map_nil]
  simp only [State.leaving, updateHost, all, none, List.filter_nil, List.map_nil, ← names]
  exact updateAdapter_same rfl

/-- One by one the commands of an adapter all go, and no others. -/
theorem unregisterEach_eq (inStep : state.InStep) (owned : state.Owned) (id : AdapterId) :
    unregisterEach id ((state.offersOf id).map (·.name)) state =
      (state.leaving id (!·.runsFor id), (state.offersOf id).length) := by
  generalize mine : state.offersOf id = offers
  induction offers generalizing state with
  | nil => simp [unregisterEach, inStep.leaving_none mine]
  | cons offer rest ih =>
    have first : offer ∈ state.offersOf id := mine ▸ List.mem_cons_self
    have runs := (mem_offersOf.mp first).2
    have step := inStep.unregister_eq owned first (sameLabel_refl offer.name)
    have later : (state.unregister id offer.name).1.InStep := inStep.unregister owned offer.name
    have still := owned.unregister id offer.name
    rw [step] at later still
    have left : (state.leaving id (· ≠ offer)).offersOf id = rest := by
      have apart := owned.offersOf_apart id
      rw [mine] at apart
      rw [offersOf_leaving, mine, List.filter_cons_of_neg (by simp), List.filter_eq_self]
      exact fun other member => by simpa using ((List.rel_of_pairwise_cons apart member).ne).symm
    have all : (fun other => decide (other ≠ offer) && !other.runsFor id) =
        fun other => !other.runsFor id := by
      funext other
      by_cases same : other = offer
      · simp [same, runs]
      · simp [same]
    simp only [List.map_cons, unregisterEach, step, ih later still left, leaving_leaving, all,
      if_true, List.length_cons]

end InStep

/-- What runs for an adapter is what it has registered. -/
theorem Reachable.registered (reachable : state.Reachable) (mine : offer ∈ state.offersOf id) :
    ∃ command, offer = State.offer id command := by
  have law : ∀ offer ∈ state.host.registry.commands, ∀ id command,
      offer.executor = .adapter id command → offer = State.offer id command := by
    refine reachable.law (fun state => ∀ offer ∈ state.host.registry.commands, ∀ id command,
      offer.executor = .adapter id command → offer = State.offer id command)
      (fun _ _ _ member => nomatch member) ?_
    intro state change before offer member id command runs
    obtain old | ⟨_, _, _, _, -, rfl⟩ | ⟨other, known, -, rfl⟩ := offer_origin state change member
    · exact before offer old id command runs
    · cases runs
    · cases runs
      rfl
  obtain ⟨member, runs⟩ := mem_offersOf.mp mine
  obtain ⟨command, executes⟩ := Offer.runsFor_iff.mp runs
  exact ⟨command, law offer member id command executes⟩

theorem RunsBy.inStep {kind : Host.Kind} {surroundings : Surroundings}
    (run : (State.initial kind surroundings).RunsBy LeavesNames state) : state.InStep := by
  have law : state.Owned ∧ state.InStep := by
    refine run.keeps (fun state => state.Owned ∧ state.InStep) ?_ ⟨.initial .., fun _ => rfl⟩
    rintro state change leaves ⟨owned, inStep⟩
    exact ⟨owned.change change, inStep.change owned change leaves⟩
  exact law.2

/-- At every point of a run, whatever adapters and others register and remove, as long as
nobody removes a command from the host by a name that an adapter holds: no label runs two
commands, so their order does not matter to a look-up; an adapter holds the names of the
commands it has registered, in that order, and no name twice; it can register a command
unless the host is closed or a label is taken, and if it cannot, nothing changes; removing a
name removes the command that the adapter has under it, and tells whether there was one; and
removing all of an adapter's commands removes and counts them, and leaves all others. -/
theorem commands_stay_in_step {kind : Host.Kind} {surroundings : Surroundings} {state : State}
    (run : (State.initial kind surroundings).RunsBy LeavesNames state) :
    (state.host.registry.commands.Pairwise Offer.Apart ∧
      ∀ order : List Offer, order.Perm state.host.registry.commands → ∀ label,
        order.find? (·.answersTo label) = state.host.registry.command? label) ∧
    (∀ id, (state.adapter id).commands = (state.offersOf id).map (·.name) ∧
      (∀ offer ∈ state.offersOf id, ∃ command, offer = State.offer id command) ∧
      (state.adapter id).commands.Pairwise fun first second => sameLabel first second = false) ∧
    (∀ id command,
      (state.hasAdapter id = true → ((state.register id command).2 ≠ .ok () ↔
        state.host.closed = true ∨ ∃ label ∈ command.name :: command.aliases,
          ∃ offer ∈ state.host.registry.commands, offer.answersTo label = true)) ∧
      ((state.register id command).2 ≠ .ok () → (state.register id command).1 = state) ∧
      ((state.register id command).2 = .ok () →
        (state.register id command).1.host.registry.commands =
          state.host.registry.commands ++ [State.offer id command])) ∧
    (∀ id name,
      ((state.unregister id name).2 = true ↔
        ∃ offer ∈ state.offersOf id, sameLabel offer.name name = true) ∧
      (∀ offer ∈ state.offersOf id, sameLabel offer.name name = true →
        (state.unregister id name).1 = state.leaving id (· ≠ offer)) ∧
      ((state.unregister id name).2 = false → (state.unregister id name).1 = state)) ∧
    ∀ id, state.unregisterAll id =
      (state.leaving id (!·.runsFor id), (state.adapter id).commands.length) := by
  have reachable : state.Reachable := ⟨kind, surroundings, run.reaches⟩
  have owned := reachable.owned
  have inStep := run.inStep
  refine ⟨⟨owned.sound.apart, fun order perm => owned.sound.command?_perm perm⟩, fun id => ?_,
    fun id command => ⟨fun there => ?_, register_done state id command⟩, fun id name => ?_,
    fun id => ?_⟩
  · refine ⟨inStep id, fun offer => reachable.registered, ?_⟩
    rw [inStep id]
    exact owned.names_distinct id
  · exact (register_refused there command).trans Host.addCommand_refused
  · by_cases held : ∃ offer ∈ state.offersOf id, sameLabel offer.name name = true
    · obtain ⟨offer, mine, same⟩ := held
      have removed := inStep.unregister_eq owned mine same
      rw [removed]
      refine ⟨iff_of_true rfl ⟨offer, mine, same⟩, fun other too fits => ?_, nofun⟩
      rw [owned.only (mem_offersOf.mp mine).1 (mem_offersOf.mp too).1
        (sameLabel_trans fits (sameLabel_comm .. ▸ same))]
    · rw [inStep.unregister_none (by simpa using held)]
      exact ⟨iff_of_false nofun held, fun offer mine same => absurd ⟨offer, mine, same⟩ held,
        fun _ => rfl⟩
  · rw [unregisterAll, inStep id, inStep.unregisterEach_eq owned, List.length_map]

/-- Two plugins and the host itself have commands, one is refused, the host removes its
own, and shuts down. -/
def marketDay : List Change :=
  let command (name : String) (aliases : List String) : Command :=
    ⟨name, aliases, none, none, none, [], 0, none⟩
  [.newAdapter "memory" "Console" false, .newAdapter "memory" "Console" false,
    .register 0 (command "Home" ["h"]), .offer "host" "stop" ["end"] 0,
    .register 1 (command "warp" ["H"]), .register 1 (command "Warp" []), .withdraw "STOP",
    .register 0 (command "stop" []), .close]

/-- The first plugin has a home and a stop, and loses only what it removes. -/
theorem market_in_step :
    let market := marketDay.foldl change (.initial .server ⟨.empty, [], "/", "/"⟩)
    (State.initial .server ⟨.empty, [], "/", "/"⟩).Allows LeavesNames marketDay ∧
      (market.unregister 0 "STOP").2 = true ∧ (market.unregister 0 "warp").2 = false ∧
      (market.unregisterAll 1).2 = 1 := by
  intro market
  have allows : (State.initial .server ⟨.empty, [], "/", "/"⟩).Allows LeavesNames marketDay := by
    decide +kernel
  obtain ⟨-, -, -, single, all⟩ := commands_stay_in_step (RunsBy.of_changes marketDay allows)
  refine ⟨allows, ((single 0 "STOP").1).mpr (by decide +kernel), ?_, ?_⟩
  · rw [← Bool.not_eq_true, (single 0 "warp").1]
    decide +kernel
  · rw [all 1]
    decide +kernel

end State
end PluginBridge
