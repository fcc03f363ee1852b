import PluginBridge.Proofs.Players.Servers
import PluginBridge.Proofs.World.Progress
import Mathlib.Data.List.GetD

/-! Where a connect leads. A server is given by its number, but the host looks it up once more
by its name, and nothing keeps names from being taken twice. So a player comes to the first
server of that name, which is the one that was given only if no server before it is named so. -/
namespace PluginBridge
open Host (PlayerId ServerId)
open Text (sameLabel)
variable {Memory : Type}

/-! ## The servers of a host -/

/-- The name of the server that a change adds, if it adds one. -/
def Change.serverName? : Change → Option String
  | .addServer name _ => some name
  | _ => none

/-- The first of some servers that is named as a given one. -/
structure FirstNamed (names : List String) (server target : ServerId) : Prop where
  same : sameLabel (names.getD target "") (names.getD server "") = true
  first : ∀ earlier < target, sameLabel (names.getD earlier "") (names.getD server "") = false

namespace FirstNamed
variable {names : List String} {server target : ServerId}

/-- None that is named so stands before the first one. -/
theorem le (first : FirstNamed names server target) {other : ServerId}
    (same : sameLabel (names.getD other "") (names.getD server "") = true) : target ≤ other := by
  by_contra beyond
  have apart := first.first other (Nat.lt_of_not_le beyond)
  rw [same] at apart
  cases apart

theorem unique (first : FirstNamed names server target) {other : ServerId}
    (second : FirstNamed names server other) : other = target :=
  Nat.le_antisymm (second.le first.same) (first.le second.same)

/-- The given server is the first of its name exactly if none before it has that name. -/
theorem eq_iff (first : FirstNamed names server target) :
    target = server ↔
      ∀ earlier < server, sameLabel (names.getD earlier "") (names.getD server "") = false := by
  constructor
  · rintro rfl
    exact first.first
  · intro alone
    exact (first.unique ⟨Text.sameLabel_refl _, alone⟩).symm

end FirstNamed

namespace Host
variable {host : Host} {player : PlayerId} {server : ServerId}

def serverNames (host : Host) : List String := host.servers.map (·.name)

theorem serverName_eq (host : Host) (server : ServerId) :
    host.serverName server = host.serverNames.getD server "" := by
  rw [serverName, serverNames, List.getD_eq_getElem?_getD, List.getElem?_map]

/-- A server of the host is found by its name, or another one before it is. -/
theorem serverNamed?_eq_some (inside : server < host.serverNames.length) :
    ∃ target, host.serverNamed? (host.serverName server) = some target ∧
      FirstNamed host.serverNames server target := by
  have search : host.serverNamed? (host.serverName server) =
      host.serverNames.findIdx? (sameLabel · (host.serverNames.getD server "")) := by
    rw [serverNamed?, serverName_eq, serverNames, List.findIdx?_map]
    rfl
  rw [search]
  have itself : (host.serverNames.findIdx?
      (sameLabel · (host.serverNames.getD server ""))).isSome = true := by
    rw [List.findIdx?_isSome, List.any_eq_true]
    refine ⟨host.serverNames[server], List.getElem_mem inside, ?_⟩
    rw [List.getD_eq_getElem _ _ inside]
    exact Text.sameLabel_refl _
  obtain ⟨target, found⟩ := Option.isSome_iff_exists.mp itself
  obtain ⟨within, same, before⟩ := List.findIdx?_eq_some_iff_getElem.mp found
  refine ⟨target, found, ?_, fun earlier less => ?_⟩
  · rwa [List.getD_eq_getElem _ _ within]
  · rw [List.getD_eq_getElem _ _ (less.trans within)]
    simpa using before earlier less

theorem mem_playersOn : player ∈ host.playersOn server ↔
    player ∈ host.players ∧ host.serverOf player = some server := by
  rw [playersOn, List.mem_filter, decide_eq_true_iff]

/-- Whoever is on a server is on no other. -/
theorem playersOn_iff (there : player ∈ host.playersOn server) (other : ServerId) :
    player ∈ host.playersOn other ↔ other = server := by
  obtain ⟨member, on⟩ := mem_playersOn.mp there
  rw [mem_playersOn, on, Option.some.injEq]
  exact ⟨fun found => found.2.symm, fun same => ⟨member, same.symm⟩⟩

end Host

namespace State
variable {player : PlayerId} {server : ServerId}

/-- Servers are added at the end, and none is ever renamed or taken away. -/
theorem serverNames_change (state : State) (change : Change) :
    (state.change change).host.serverNames =
      state.host.serverNames ++ change.serverName?.toList := by
  cases registers : change.registers with
  | true =>
    obtain ⟨registry, adapters, logs, -, same⟩ := registers_change state registers
    have nothing : change.serverName? = none := by
      cases change with
      | addServer => cases registers
      | _ => rfl
    rw [same, nothing]
    exact (List.append_nil _).symm
  | false =>
    cases change with
    | addServer name address => exact List.map_append
    | sendData id channel data =>
      refine Eq.trans ?_ (List.append_nil _).symm
      exact List.ext_getElem (by simp [State.change, updateHost, Host.sendData, Host.serverNames])
        fun place here there => by
          simp only [State.change, updateHost, Host.sendData, Host.serverNames, List.getElem_map,
            List.getElem_modify]
          split <;> rfl
    | tell user message =>
      cases user with
      | _ => exact (List.append_nil _).symm
    | _ => first | exact (List.append_nil _).symm | cases registers

theorem serverNames_foldl (changes : List Change) (state : State) :
    (changes.foldl State.change state).host.serverNames =
      state.host.serverNames ++ changes.filterMap Change.serverName? := by
  induction changes generalizing state with
  | nil => exact (List.append_nil _).symm
  | cons change rest ih =>
    rw [List.foldl_cons, ih, serverNames_change, List.append_assoc]
    cases added : change.serverName? with
    | none => rw [List.filterMap_cons_none added]; rfl
    | some name => rw [List.filterMap_cons_some added]; rfl

end State

/-! ## Staying on a server -/

/-- The player whom a change takes from where it is, if it does that to anyone. -/
def Change.displaced? : Change → Option PlayerId
  | .drop player _ | .remove player | .move player _ => some player
  | _ => none

namespace Host
variable {host : Host} {player : PlayerId} {server : ServerId}

theorem mem_playersOn_updatePlayer {id : PlayerId} {change : Player → Player}
    (apart : player = id → ∀ known, (change known).isConnected = known.isConnected ∧
      (change known).server = known.server) :
    player ∈ (host.updatePlayer id change).playersOn server ↔ player ∈ host.playersOn server := by
  have listed : (host.updatePlayer id change).listed = host.listed := rfl
  simp only [mem_playersOn, players, List.mem_filter, listed, isConnected, serverOf,
    player?_updatePlayer]
  cases host.player? player with
  | none => rfl
  | some known =>
    by_cases named : player = id
    · obtain ⟨connected, on⟩ := apart named known
      simp [named, connected, on]
    · simp [named]

theorem mem_playersOn_removePlayer {id : PlayerId} (apart : player ≠ id)
    (there : player ∈ host.playersOn server) :
    player ∈ (host.removePlayer id).playersOn server := by
  have updated : player ∈ (host.updatePlayer id fun known =>
      { known with server := none }).playersOn server :=
    (mem_playersOn_updatePlayer fun named => absurd named apart).mpr there
  obtain ⟨member, on⟩ := mem_playersOn.mp updated
  obtain ⟨listed, connected⟩ := List.mem_filter.mp member
  have kept : player ∈ host.listed.filter (· ≠ id) :=
    List.mem_filter.mpr ⟨listed, decide_eq_true apart⟩
  exact mem_playersOn.mpr ⟨List.mem_filter.mpr ⟨kept, connected⟩, on⟩

theorem mem_playersOn_addPlayer (name : String) (there : player ∈ host.playersOn server) :
    player ∈ (host.addPlayer name).1.playersOn server := by
  obtain ⟨member, on⟩ := mem_playersOn.mp there
  obtain ⟨listed, connected⟩ := List.mem_filter.mp member
  have known : player < host.everyone.length := by
    by_contra beyond
    have nobody : host.player? player = none :=
      List.getElem?_eq_none (Nat.le_of_not_lt beyond)
    rw [serverOf, nobody] at on
    cases on
  refine mem_playersOn.mpr ⟨List.mem_filter.mpr ⟨List.mem_append_left _ listed, ?_⟩, ?_⟩
  · rwa [isConnected, player?_addPlayer known]
  · rwa [serverOf, player?_addPlayer known]

end Host

namespace State
variable {player : PlayerId} {server : ServerId}

/-- Whoever is on a server stays there by any change that neither moves nor drops that
player. -/
theorem mem_playersOn_change {state : State} {change : Change}
    (other : change.displaced? ≠ some player) (there : player ∈ state.host.playersOn server) :
    player ∈ (state.change change).host.playersOn server := by
  cases registers : change.registers with
  | true =>
    obtain ⟨registry, adapters, logs, -, same⟩ := registers_change state registers
    rw [same]
    exact there
  | false =>
    cases change with
    | join name => exact Host.mem_playersOn_addPlayer name there
    | drop id | move id =>
      refine (Host.mem_playersOn_updatePlayer fun named => ?_).mpr there
      exact absurd (congrArg some named.symm) other
    | remove id =>
      exact Host.mem_playersOn_removePlayer (fun named => other (congrArg some named.symm)) there
    | permit id node held =>
      refine (Host.mem_playersOn_updatePlayer fun _ known => ?_).mpr there
      exact ⟨rfl, rfl⟩
    | tell user message =>
      cases user with
      | console name => exact there
      | player id =>
        refine (Host.mem_playersOn_updatePlayer fun _ known => ?_).mpr there
        exact ⟨rfl, rfl⟩
    | _ => first | exact there | cases registers

/-- Whoever is sent to a server is on it. -/
theorem mem_playersOn_moved {state : State} (member : player ∈ state.host.players)
    (server : ServerId) : player ∈ (state.moved player server).host.playersOn server := by
  obtain ⟨listed, connected⟩ := List.mem_filter.mp member
  have host : (state.moved player server).host = state.host.updatePlayer player fun known =>
      { known with server := some server } := rfl
  obtain ⟨known, there, -⟩ := (Option.any_eq_true ..).mp connected
  rw [host]
  refine Host.mem_playersOn.mpr ⟨List.mem_filter.mpr ⟨listed, ?_⟩, ?_⟩
  · rw [Host.isConnected, there] at connected
    rw [Host.isConnected, Host.player?_updatePlayer, there, Option.map_some, if_pos rfl]
    exact connected
  · rw [Host.serverOf_updatePlayer, there, Option.bind_some, if_pos rfl]

/-- Whoever is sent to a server and then neither moved nor dropped is there, and on no other. -/
theorem on_server_of_moved {state later : State} (member : player ∈ state.host.players)
    (stays : (state.moved player server).ReachesBy (·.displaced? ≠ some player) later) :
    later.host.serverOf player = some server ∧
      ∀ other, player ∈ later.host.playersOn other ↔ other = server := by
  have there : player ∈ later.host.playersOn server :=
    stays.keeps (fun state => player ∈ state.host.playersOn server)
      (fun _ _ allowed => mem_playersOn_change allowed) (mem_playersOn_moved member server)
  exact ⟨(Host.mem_playersOn.mp there).2, Host.playersOn_iff there⟩

end State

/-! ## Connecting -/

/-- Whoever connects a player to a server switches it to the one that is found by the name. -/
theorem Action.connect_eq_switch (call : Caller Memory) (player : PlayerId)
    {server target : ServerId} {world : World Memory}
    (found : world.state.host.serverNamed? (world.state.host.serverName server) = some target) :
    (Action.connect call player server).on world =
      (Action.switch call player target).on world := by
  unfold Action.connect
  rw [Action.on_bind_ok (Action.on_see ..)]
  simp only [found]

/-- What comes of a switch comes of changes after the player has been sent on. -/
theorem Action.switch_reaches (depth : Nat) (player : PlayerId) (server : ServerId)
    (world : World Memory) :
    (world.state.moved player server).Reaches
      ((Action.switch (callWithin depth) player server).on world).2.state :=
  (switch_comes (callWithin_reaches depth) player server world).1

/-- A host to which servers of any names have been added, whatever else has been done to it,
and one of these servers. One server is the first that has its name, ASCII case aside, and
to connect a player to the given server is to switch the player to that first one. All that
comes after this comes of changes, and if none of them moves or drops the player, that first
server is the player's, and of all servers it alone has the player. So the player comes to the
server that was given exactly if no server before it has its name. -/
theorem connect_reaches_first_of_name (kind : Host.Kind) (surroundings : Surroundings)
    (changes : List Change) (server : ServerId)
    (added : server < (changes.filterMap Change.serverName?).length) :
    let state := changes.foldl State.change (.initial kind surroundings)
    let names := changes.filterMap Change.serverName?
    ∃ target, (FirstNamed names server target ∧
        ∀ other, FirstNamed names server other → other = target) ∧
      ∀ (depth : Nat) (world : World Memory) (player : PlayerId), world.state = state →
        let connected := (Action.connect (callWithin depth) player server).on world
        let later := connected.2.state
        connected = (Action.switch (callWithin depth) player target).on world ∧
        (state.moved player target).Reaches later ∧
        (player ∈ state.host.players →
          (state.moved player target).ReachesBy (·.displaced? ≠ some player) later →
          (later.host.serverOf player = some target ∧
            ∀ other, player ∈ later.host.playersOn other ↔ other = target) ∧
          ((later.host.serverOf player = some server ∧
              ∀ other, player ∈ later.host.playersOn other ↔ other = server) ↔
            ∀ earlier < server,
              sameLabel (names.getD earlier "") (names.getD server "") = false)) := by
  intro state names
  have servers : state.host.serverNames = names := State.serverNames_foldl changes _
  have inside : server < state.host.serverNames.length := servers ▸ added
  obtain ⟨target, found, first⟩ := Host.serverNamed?_eq_some inside
  rw [servers] at first
  refine ⟨target, ⟨first, fun other => first.unique⟩, fun depth world player same => ?_⟩
  clear_value state
  subst same
  have switches := Action.connect_eq_switch (callWithin depth) player found
  intro connected later
  have reaches : (world.state.moved player target).Reaches later := by
    rw [show later = _ from congrArg (·.2.state) switches]
    exact Action.switch_reaches depth player target world
  refine ⟨switches, reaches, fun member stays => ?_⟩
  have there := State.on_server_of_moved member stays
  refine ⟨there, ?_⟩
  rw [← first.eq_iff]
  constructor
  · rintro ⟨on, -⟩
    exact Option.some.inj (there.1.symm.trans on)
  · intro given
    exact given ▸ there

/-- Two servers whose names differ in case only, and a player. -/
def namesakes : List Change :=
  [.addServer "lobby" (.v4 [127, 0, 0, 1] 25566), .addServer "Lobby" (.v4 [127, 0, 0, 1] 25567),
    .join "Steve"]

/-- A switch is passed on to the bus of an adapter and logged, which moves nobody. -/
theorem namesake_connect_reaches_first :
    let changes := namesakes ++ [.newAdapter "memory" "CONSOLE" true, .attach 0]
    let state := changes.foldl State.change (.initial .proxy ⟨.empty, [], "/", "/"⟩)
    let world : World Unit := ⟨state, (), []⟩
    let later := ((Action.connect (callWithin 1) 0 1).on world).2.state
    1 < (changes.filterMap Change.serverName?).length ∧ 0 ∈ state.host.players ∧
      (state.moved 0 0).ReachesBy (·.displaced? ≠ some 0) later ∧
      later.host.serverOf 0 = some 0 ∧ ∀ other, 0 ∈ later.host.playersOn other ↔ other = 0 := by
  intro changes state world later
  have added : 1 < (changes.filterMap Change.serverName?).length := by decide
  have member : 0 ∈ state.host.players := by decide
  obtain ⟨target, ⟨-, only⟩, connects⟩ :=
    connect_reaches_first_of_name .proxy ⟨.empty, [], "/", "/"⟩ changes 1 added
  obtain rfl : 0 = target := only 0 ⟨by decide, fun _ less => absurd less (Nat.not_lt_zero _)⟩
  obtain ⟨switches, -, comes⟩ := connects 1 world 0 rfl
  have stays : (state.moved 0 0).ReachesBy (·.displaced? ≠ some 0) later := by
    refine ⟨[.note (.dispatched 0 (.switch 0 none 0)), .log (.debug "Dispatched event"
      [("platform", .text "memory"), ("native", .text "ServerSwitch"),
        ("event", .text "ProxyUserSwitchEvent"), ("cancelled", .flag false)])], by decide, ?_⟩
    rw [show later = _ from congrArg (·.2.state) switches]
    rfl
  exact ⟨added, member, stays, (comes member stays).1⟩

/-- A player who is connected to the second of two servers that are named the same but for
case comes to the first, although nobody listens. -/
theorem connect_misses_second_of_name :
    let state := namesakes.foldl State.change (.initial .proxy ⟨.empty, [], "/", "/"⟩)
    let later := ((Action.connect (callWithin 0) 0 1).on (⟨state, (), []⟩ : World Unit)).2.state
    state.host.serverNames = ["lobby", "Lobby"] ∧ state.host.players = [0] ∧
      state.host.registry.listeners = [] ∧ later.host.serverOf 0 = some 0 ∧
      later.host.playersOn 1 = [] ∧ later.host.playersOn 0 = [0] := by
  decide +kernel

end PluginBridge
