import PluginBridge.State.Registration

/-! What can change in the state, one thing at a time. Whatever programs do to the
world comes to a sequence of these changes, so a law that each change keeps holds
in every state that a run can reach. -/
namespace PluginBridge
open Host (PlayerId ServerId Address ListenerId)
open Plugin

inductive Change where
  | log (record : Log.Record)
  | note (happening : Happening)
  | join (name : String)
  | drop (player : PlayerId) (reason : String)
  | remove (player : PlayerId)
  | move (player : PlayerId) (server : ServerId)
  | permit (player : PlayerId) (node : String) (held : Bool)
  | tell (user : ChatUser) (message : String)
  | addServer (name : String) (address : Address)
  | sendData (server : ServerId) (channel : String) (data : ByteArray)
  | close
  | listen (owner : String) (kind : HostEventKind) (code : CodeId)
  | unlisten (listener : ListenerId)
  | unlistenOwner (owner : String)
  | offer (owner name : String) (aliases : List String) (code : CodeId)
  | withdraw (name : String)
  | newAdapter (platform consoleName : String) (logEvents : Bool)
  | attach (adapter : AdapterId)
  | detach (adapter : AdapterId)
  | subscribe (adapter : AdapterId) (kind : Option EventKind) (owner : String) (priority : Priority)
      (code : CodeId)
  | unsubscribe (adapter : AdapterId) (subscription : SubscriptionId)
  | unsubscribeOwner (adapter : AdapterId) (owner : String)
  | register (adapter : AdapterId) (command : Command)
  | unregister (adapter : AdapterId) (name : String)
  /-- A core comes with an adapter of its own. -/
  | construct (platform : String) (data : Data) (settings : Settings.Loaded) (code : CodeId)
  | setStage (core : CoreId) (stage : Stage)
  | setBusy (core : CoreId) (busy : Bool)
  | newEntry (data : Data) (code : CodeId) (dataFolder : Option String)
  | useEntry (entry : EntryId)
  | tie (entry : EntryId) (core : CoreId)

namespace State

/-- The state after a request that the host may refuse. -/
def tried {ε α : Type} (state : State) : Except ε (Host × α) → State
  | .ok (host, _) => { state with host }
  | .error _ => state

def change (state : State) : Change → State
  | .log record => state.log record
  | .note happening => state.note happening
  | .join name => state.updateHost fun host => (host.addPlayer name).1
  | .drop player reason => state.updateHost (·.updatePlayer player (·.disconnect reason))
  | .remove player => state.updateHost (·.removePlayer player)
  | .move player server =>
    state.updateHost (·.updatePlayer player fun known => { known with server := some server })
  | .permit player node held =>
    state.updateHost (·.updatePlayer player (·.setPermission node held))
  | .tell user message => state.updateHost (·.tell user message)
  | .addServer name address => state.updateHost fun host => (host.addServer name address).1
  | .sendData server channel data => state.updateHost (·.sendData server channel data)
  | .close => state.updateHost fun host => { host with closed := true }
  | .listen owner kind code => state.tried (state.host.addListener owner kind (.code code))
  | .unlisten listener => state.updateHost fun host => (host.removeListener listener).1
  | .unlistenOwner owner => state.updateHost fun host => (host.removeListenersOf owner).1
  | .offer owner name aliases code =>
    state.tried (state.host.addCommand ⟨owner, name, aliases, .code code⟩)
  | .withdraw name => state.updateHost fun host => (host.removeCommand name).1
  | .newAdapter platform consoleName logEvents =>
    (state.addAdapter (.detached platform consoleName logEvents)).1
  | .attach adapter => (state.attach adapter).1
  | .detach adapter => state.detach adapter
  | .subscribe adapter kind owner priority code =>
    (state.subscribe adapter kind owner priority code).1
  | .unsubscribe adapter subscription => (state.unsubscribe adapter subscription).1
  | .unsubscribeOwner adapter owner => (state.unsubscribeOwner adapter owner).1
  | .register adapter command => (state.register adapter command).1
  | .unregister adapter name => (state.unregister adapter name).1
  | .construct platform data settings code =>
    let (state, adapter) := state.addAdapter (.detached platform
      settings.schema.framework.consoleName settings.schema.framework.logEvents)
    (state.addCore ⟨data, adapter, settings, code, none, false⟩).1
  | .setStage core stage => state.updateCore core fun known => { known with stage := some stage }
  | .setBusy core busy => state.updateCore core fun known => { known with busy }
  | .newEntry data code dataFolder => (state.addEntry ⟨data, code, dataFolder, false, none⟩).1
  | .useEntry entry => state.updateEntry entry fun known => { known with used := true }
  | .tie entry core => state.updateEntry entry fun known => { known with core := some core }

/-- A state that changes of some kind lead to. -/
def ReachesBy (allowed : Change → Prop) (state later : State) : Prop :=
  ∃ changes : List Change, (∀ change ∈ changes, allowed change) ∧
    later = changes.foldl change state

/-- A state that changes lead to, whatever they are. -/
abbrev Reaches : State → State → Prop := ReachesBy fun _ => True

/-- A state that a world can come to from its beginning. -/
def Reachable (state : State) : Prop :=
  ∃ kind surroundings, (State.initial kind surroundings).Reaches state

namespace ReachesBy
variable {allowed : Change → Prop} {state between later : State}

theorem refl (state : State) : state.ReachesBy allowed state := ⟨[], by simp, rfl⟩

theorem one (state : State) (one : Change) (allows : allowed one) :
    state.ReachesBy allowed (state.change one) := ⟨[one], by simpa, rfl⟩

theorem trans (first : state.ReachesBy allowed between) (second : between.ReachesBy allowed later) :
    state.ReachesBy allowed later := by
  obtain ⟨before, firstAllowed, rfl⟩ := first
  obtain ⟨after, secondAllowed, rfl⟩ := second
  refine ⟨before ++ after, ?_, (List.foldl_append ..).symm⟩
  exact List.forall_mem_append.mpr ⟨firstAllowed, secondAllowed⟩

/-- What each change keeps holds in all states that changes lead to. -/
theorem keeps (Law : State → Prop)
    (step : ∀ state change, allowed change → Law state → Law (state.change change))
    (reaches : state.ReachesBy allowed later) (holds : Law state) : Law later := by
  obtain ⟨changes, allows, rfl⟩ := reaches
  induction changes generalizing state with
  | nil => exact holds
  | cons change rest ih =>
    obtain ⟨first, others⟩ := List.forall_mem_cons.mp allows
    exact ih (step state change first holds) others

theorem mono {more : Change → Prop} (reaches : state.ReachesBy allowed later)
    (within : ∀ change, allowed change → more change) : state.ReachesBy more later := by
  obtain ⟨changes, allows, same⟩ := reaches
  exact ⟨changes, fun change member => within change (allows change member), same⟩

end ReachesBy

/-- The states of a run each of whose changes is allowed in the state that it finds. -/
inductive RunsBy (allowed : State → Change → Prop) (state : State) : State → Prop where
  | start : RunsBy allowed state state
  | step {between : State} (before : RunsBy allowed state between) (change : Change)
      (allows : allowed between change) : RunsBy allowed state (between.change change)

namespace RunsBy
variable {allowed : State → Change → Prop} {state later : State}

theorem reaches (run : state.RunsBy allowed later) : state.Reaches later := by
  induction run with
  | start => exact .refl state
  | step before change allows ih => exact ih.trans (.one _ change trivial)

/-- What each allowed change keeps holds at every point of a run. -/
theorem keeps (Law : State → Prop)
    (step : ∀ state change, allowed state change → Law state → Law (state.change change))
    (run : state.RunsBy allowed later) (holds : Law state) : Law later := by
  induction run with
  | start => exact holds
  | step before change allows ih => exact step _ change allows ih

theorem from_next {change : Change} (allows : allowed state change)
    (run : (state.change change).RunsBy allowed later) : state.RunsBy allowed later := by
  induction run with
  | start => exact .step .start change allows
  | step before next allows ih => exact ih.step next allows

end RunsBy

/-- Each of some changes is allowed in the state that it finds. -/
def Allows (allowed : State → Change → Prop) : State → List Change → Prop
  | _, [] => True
  | state, change :: rest => allowed state change ∧ (state.change change).Allows allowed rest

instance Allows.decidable (allowed : State → Change → Prop)
    [∀ state change, Decidable (allowed state change)] :
    (state : State) → (changes : List Change) → Decidable (state.Allows allowed changes)
  | _, [] => isTrue trivial
  | state, change :: rest =>
    have := Allows.decidable allowed (state.change change) rest
    inferInstanceAs (Decidable (allowed state change ∧ (state.change change).Allows allowed rest))

theorem Allows.of_forall {allowed : State → Change → Prop} {changes : List Change}
    (each : ∀ change ∈ changes, ∀ state, allowed state change) (state : State) :
    state.Allows allowed changes := by
  induction changes generalizing state with
  | nil => trivial
  | cons change rest ih =>
    obtain ⟨first, others⟩ := List.forall_mem_cons.mp each
    exact ⟨first state, ih others _⟩

theorem Allows.mono {allowed more : State → Change → Prop} {changes : List Change}
    {state : State} (allows : state.Allows allowed changes)
    (within : ∀ change ∈ changes, ∀ state, allowed state change → more state change) :
    state.Allows more changes := by
  induction changes generalizing state with
  | nil => trivial
  | cons change rest ih =>
    obtain ⟨first, others⟩ := List.forall_mem_cons.mp within
    exact ⟨first state allows.1, ih allows.2 others⟩

theorem RunsBy.of_changes {allowed : State → Change → Prop} (changes : List Change) {state : State}
    (allows : state.Allows allowed changes) :
    state.RunsBy allowed (changes.foldl State.change state) := by
  induction changes generalizing state with
  | nil => exact .start
  | cons change rest ih => exact .from_next allows.1 (ih allows.2)

/-- One change is a way to reach a state. -/
theorem changed (state : State) (change : Change) : state.Reaches (state.change change) :=
  .one state change trivial

/-- A law that holds at the beginning and is kept by each change holds in every
state that a world can come to. -/
theorem Reachable.law (Law : State → Prop) {state : State} (reachable : state.Reachable)
    (beginning : ∀ kind surroundings, Law (.initial kind surroundings))
    (step : ∀ state change, Law state → Law (state.change change)) : Law state := by
  obtain ⟨kind, surroundings, reaches⟩ := reachable
  exact reaches.keeps Law (fun state change _ => step state change) (beginning kind surroundings)

theorem Reachable.reaches {state later : State} (reachable : state.Reachable)
    (reaches : state.Reaches later) : later.Reachable := by
  obtain ⟨kind, surroundings, reached⟩ := reachable
  exact ⟨kind, surroundings, reached.trans reaches⟩

/-- Removing commands one by one is a change for each of them. -/
theorem unregisterEach_eq (adapter : AdapterId) (names : List String) (state : State) :
    (unregisterEach adapter names state).1 =
      (names.map (Change.unregister adapter)).foldl change state := by
  induction names generalizing state with
  | nil => rfl
  | cons name rest ih => exact ih (state.unregister adapter name).1

theorem unregisterEach_reaches {allowed : Change → Prop} {adapter : AdapterId}
    (allows : ∀ name, allowed (.unregister adapter name)) (names : List String) (state : State) :
    state.ReachesBy allowed (unregisterEach adapter names state).1 :=
  ⟨_, List.forall_mem_map.mpr fun name _ => allows name, unregisterEach_eq adapter names state⟩

theorem logAll_reaches {allowed : Change → Prop} (allows : ∀ record, allowed (.log record))
    (records : List Log.Record) (state : State) :
    state.ReachesBy allowed (state.logAll records) := by
  induction records generalizing state with
  | nil => simpa [logAll] using ReachesBy.refl state
  | cons record rest ih =>
    refine .trans (.one state (.log record) (allows record)) ?_
    simpa [change, log, logAll] using ih (state.log record)

/-- A broadcast tells each player in turn. -/
theorem broadcast_reaches {allowed : Change → Prop}
    (allows : ∀ user message, allowed (.tell user message)) (message : String) (state : State) :
    state.ReachesBy allowed (state.updateHost (·.broadcast message)) := by
  have each (players : List PlayerId) (state : State) :
      state.ReachesBy allowed (state.updateHost fun host =>
        players.foldl (fun host id => host.tell (.player id) message) host) := by
    induction players generalizing state with
    | nil => exact .refl state
    | cons player rest ih =>
      exact .trans (.one state (.tell (.player player) message) (allows ..)) (ih _)
  exact each state.host.players state

end State
end PluginBridge
