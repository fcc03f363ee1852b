import PluginBridge.Proofs.State.Adapters

/-! The players of a host. A change to one player leaves the others alone, and the list
of players stays in the order they joined, whatever is done to the world. -/
namespace PluginBridge
open Host (PlayerId)

namespace Host
variable {host : Host}

/-- Why a player was disconnected, if it was. -/
def reason? (host : Host) (id : PlayerId) : Option String :=
  (host.player? id).bind (·.disconnectReason)

theorem player?_updatePlayer (host : Host) (id other : PlayerId) (change : Player → Player) :
    (host.updatePlayer id change).player? other =
      (host.player? other).map fun known => if other = id then change known else known := by
  simp only [player?, updatePlayer, List.getElem?_modify]
  by_cases named : id = other
  · simp [named]
  · simp [named, Ne.symm named]

theorem player?_newcomer (host : Host) (name : String) :
    (host.addPlayer name).1.player? host.everyone.length = some (.named name) := by
  simp [player?, addPlayer]

/-- Whoever has just joined is a player of the host. -/
theorem newcomer_mem_players (host : Host) (name : String) :
    host.everyone.length ∈ (host.addPlayer name).1.players := by
  refine List.mem_filter.mpr ⟨by simp [addPlayer], ?_⟩
  rw [isConnected, player?_newcomer]
  rfl

theorem player?_tellAll (message : String) {ids : List PlayerId} (once : ids.Nodup) (host : Host)
    (id : PlayerId) :
    (ids.foldl (fun host id => host.tell (.player id) message) host).player? id =
      (host.player? id).map fun known => if id ∈ ids then known.receive message else known := by
  induction ids generalizing host with
  | nil => simp
  | cons first rest ih =>
    obtain ⟨apart, once⟩ := List.nodup_cons.mp once
    rw [List.foldl_cons, ih once]
    simp only [tell, player?_updatePlayer, Option.map_map]
    congr 1
    funext known
    by_cases now : id = first
    · subst now
      simp [apart]
    · simp [now]

theorem Player.lost_disconnect (known : Player) (reason : String) :
    (known.disconnect reason).isConnected = false := by
  cases kept : known.disconnectReason <;> simp [isConnected, disconnect, kept]

theorem isConnected_disconnect (host : Host) (id : PlayerId) (reason : String) :
    (host.updatePlayer id (·.disconnect reason)).isConnected id = false := by
  rw [isConnected, player?_updatePlayer]
  cases host.player? id with
  | none => rfl
  | some known => simpa using known.lost_disconnect reason

/-- Telling players something is all that a broadcast does. -/
theorem broadcast_eq (host : Host) (message : String) :
    host.broadcast message =
      { host with everyone := (host.broadcast message).everyone } := by
  have kept (ids : List PlayerId) (told : Host) :
      ids.foldl (fun host id => host.tell (.player id) message) told =
        { told with everyone :=
            (ids.foldl (fun host id => host.tell (.player id) message) told).everyone } := by
    induction ids generalizing told with
    | nil => rfl
    | cons first rest ih => exact ih _
  exact kept _ host

/-- The list of players in order: whoever joined earlier stands earlier. -/
structure Roll (host : Host) : Prop where
  ordered : host.listed.Pairwise (· < ·)
  joined : ∀ player ∈ host.listed, player < host.everyone.length

namespace Roll

theorem empty (kind : Kind) : (Host.empty kind).Roll :=
  ⟨List.Pairwise.nil, by simp [Host.empty]⟩

theorem nodup (roll : host.Roll) : host.listed.Nodup :=
  roll.ordered.imp fun earlier => Nat.ne_of_lt earlier

theorem of_same {other : Host} (roll : host.Roll) (listed : other.listed = host.listed)
    (everyone : other.everyone.length = host.everyone.length) : other.Roll :=
  ⟨listed ▸ roll.ordered, listed ▸ everyone ▸ roll.joined⟩

theorem addPlayer (roll : host.Roll) (name : String) : (host.addPlayer name).1.Roll := by
  refine ⟨List.pairwise_append.mpr ⟨roll.ordered, List.pairwise_singleton .., ?_⟩, ?_⟩
  · intro player member newcomer among
    obtain rfl := List.mem_singleton.mp among
    exact roll.joined player member
  · intro player member
    simp only [Host.addPlayer, List.length_append, List.length_singleton] at member ⊢
    obtain old | new := List.mem_append.mp member
    · exact Nat.lt_succ_of_lt (roll.joined player old)
    · obtain rfl := List.mem_singleton.mp new
      exact Nat.lt_succ_self _

theorem removePlayer (roll : host.Roll) (player : PlayerId) : (host.removePlayer player).Roll := by
  refine ⟨roll.ordered.sublist List.filter_sublist, fun known member => ?_⟩
  simpa [Host.removePlayer, updatePlayer] using roll.joined known (List.mem_of_mem_filter member)

/-- If nobody has left the list who is still connected, the players of the host are those who
have joined and are connected, in the order in which they joined. -/
theorem players_eq (roll : host.Roll) (lost : ∀ player < host.everyone.length,
    player ∉ host.listed → host.isConnected player = false) :
    host.players = (List.range host.everyone.length).filter host.isConnected := by
  refine List.Pairwise.eq_of_mem_iff (roll.ordered.sublist List.filter_sublist)
    (List.pairwise_lt_range.sublist List.filter_sublist) fun player => ?_
  simp only [Host.players, List.mem_filter, List.mem_range]
  refine and_congr_left fun connected =>
    ⟨roll.joined player, fun joined => by_contra fun gone => ?_⟩
  exact absurd connected (by simp [lost player joined gone])

end Roll
end Host

/-! ## Announcements -/

namespace Happening

/-- The host announces that a player has quit. -/
def isQuitOf (player : PlayerId) : Happening → Bool
  | .fired (.quit other) => other = player
  | _ => false

/-- An adapter tells its bus that a player has connected. -/
def isConnectOf (adapter : AdapterId) (player : PlayerId) : Happening → Bool
  | .dispatched other (.connect details) => other = adapter && details.user = player
  | _ => false

/-- An adapter tells its bus that a player has gone. -/
def isDisconnectOf (adapter : AdapterId) (player : PlayerId) : Happening → Bool
  | .dispatched other (.disconnect user) => other = adapter && user = player
  | _ => false

end Happening

namespace State

/-- How often the host has announced that a player has quit. -/
def quits (state : State) (player : PlayerId) : Nat :=
  state.history.countP (Happening.isQuitOf player)

/-- How often an adapter has told its bus that a player has gone. -/
def farewells (state : State) (adapter : AdapterId) (player : PlayerId) : Nat :=
  state.history.countP (Happening.isDisconnectOf adapter player)

theorem quits_note (state : State) (happening : Happening) (player : PlayerId) :
    (state.note happening).quits player =
      state.quits player + if happening.isQuitOf player then 1 else 0 := by
  simp [quits, note, List.countP_append, List.countP_singleton]

theorem farewells_note (state : State) (happening : Happening) (adapter : AdapterId)
    (player : PlayerId) :
    (state.note happening).farewells adapter player =
      state.farewells adapter player +
        if happening.isDisconnectOf adapter player then 1 else 0 := by
  simp [farewells, note, List.countP_append, List.countP_singleton]

end State

/-! ## Comings and goings -/

/-- An event of the host that tells of a player who comes, goes on to a server, or leaves. -/
def HostEvent.isTravel : HostEvent → Bool
  | .join _ | .switch .. | .quit _ => true
  | _ => false

namespace State

/-- What the host logs of a player who joins. -/
def arrivalRecord (name : String) : Log.Record :=
  .debug "Player joined" [("player", .text name)]

/-- A player of a name joins, and the host begins to fire that. -/
def arrived (state : State) (name : String) : State :=
  ((state.change (.join name)).log (arrivalRecord name)).note
    (.fired (.join state.host.everyone.length))

/-- A player goes on to a server, and the host begins to fire that, with the server that the
player has left. -/
def moved (state : State) (player : PlayerId) (server : Host.ServerId) : State :=
  (state.change (.move player server)).note
    (.fired (.switch player (state.host.serverOf player) server))

/-- The host takes a player off the list and begins to announce that it has quit. -/
def left (state : State) (player : PlayerId) : State :=
  (state.change (.remove player)).note (.fired (.quit player))

end State

/-! ## The list of players in all states -/

namespace State

/-- Who is listed and how many have joined changes by joining and removing only. -/
theorem listing_change (state : State) (change : Change) :
    ((state.change change).host.listed = state.host.listed ∧
      (state.change change).host.everyone.length = state.host.everyone.length) ∨
    (∃ name, change = .join name) ∨ ∃ player, change = .remove player := by
  cases registers : change.registers with
  | true =>
    obtain ⟨registry, adapters, logs, -, same⟩ := registers_change state registers
    exact .inl (by rw [same]; exact ⟨rfl, rfl⟩)
  | false =>
    cases change with
    | join name => exact .inr (.inl ⟨name, rfl⟩)
    | remove player => exact .inr (.inr ⟨player, rfl⟩)
    | drop player reason | move player server | permit player node held =>
      exact .inl ⟨rfl, by simp [State.change, updateHost, Host.updatePlayer]⟩
    | tell user message =>
      cases user with
      | console name => exact .inl ⟨rfl, rfl⟩
      | player id =>
        exact .inl ⟨rfl, by simp [State.change, updateHost, Host.tell, Host.updatePlayer]⟩
    | _ => first | exact .inl ⟨rfl, rfl⟩ | cases registers

/-- The list of players is in order in every state that a world can come to. -/
theorem Reachable.roll {state : State} (reachable : state.Reachable) : state.host.Roll := by
  refine reachable.law (fun state => state.host.Roll) (fun kind _ => .empty kind) ?_
  intro state change roll
  obtain ⟨listed, everyone⟩ | ⟨name, rfl⟩ | ⟨player, rfl⟩ := listing_change state change
  · exact roll.of_same listed everyone
  · exact roll.addPlayer name
  · exact roll.removePlayer player

end State
end PluginBridge
