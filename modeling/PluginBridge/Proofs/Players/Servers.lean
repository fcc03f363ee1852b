import PluginBridge.Proofs.World.Keeping
import PluginBridge.Script

/-! Where the players of a host are. Every event that tells of a player who comes, goes on to
a server or leaves is fired in one step with what it tells of, so what the host has fired
says where each player is, at every point of every run. -/
namespace PluginBridge
open Host (PlayerId ServerId)
variable {Memory : Type}

/-! ## What has been fired -/

def Happening.travel? : Happening → Option HostEvent
  | .fired event => if event.isTravel then some event else none
  | _ => none

/-- The events of players who come, go on or leave, in the order in which the host has begun
to fire them. -/
def State.announced (state : State) : List HostEvent :=
  state.history.filterMap Happening.travel?

namespace HostEvent

/-- The server that an event sends its player to, if it tells of a switch. -/
def server? : HostEvent → Option ServerId
  | .switch _ _ server => some server
  | _ => none

/-- The server that a player has been sent to by the last event that tells of the player:
none if this is the one of its joining or its removal. -/
def serverOf? (events : List HostEvent) (player : PlayerId) : Option ServerId :=
  (events.filter (·.player = player)).getLast?.bind server?

/-- Each switch of a player who has joined leads from the server that the events before it
tell of. -/
def Chained (events : List HostEvent) : Prop :=
  ∀ before player previous server after,
    events = before ++ .switch player previous server :: after → .join player ∈ before →
    previous = serverOf? before player

theorem serverOf?_concat_self (events : List HostEvent) (event : HostEvent) :
    serverOf? (events ++ [event]) event.player = event.server? := by
  simp [serverOf?, List.filter_append]

section
variable {events : List HostEvent} {event : HostEvent}

theorem serverOf?_concat_ne {player : PlayerId} (other : event.player ≠ player) :
    serverOf? (events ++ [event]) player = serverOf? events player := by
  simp [serverOf?, List.filter_append, other]

theorem Chained.concat (chained : Chained events)
    (last : ∀ player previous server, event = .switch player previous server →
      .join player ∈ events → previous = serverOf? events player) :
    Chained (events ++ [event]) := by
  intro before player previous server after same joined
  obtain rfl | ⟨rest, final, rfl⟩ := List.eq_nil_or_concat after
  · obtain ⟨rfl, switched⟩ := List.append_inj' same rfl
    exact last player previous server (List.singleton_inj.mp switched) joined
  · rw [List.concat_eq_append, ← List.cons_append, ← List.append_assoc] at same
    obtain ⟨rfl, -⟩ := List.append_inj' same rfl
    exact chained before player previous server rest rfl joined

end

end HostEvent

namespace Host
variable {host later : Host}

theorem serverOf_updatePlayer (host : Host) (id player : PlayerId) (change : Player → Player) :
    (host.updatePlayer id change).serverOf player =
      (host.player? player).bind fun known =>
        if player = id then (change known).server else known.server := by
  rw [serverOf, player?_updatePlayer]
  cases host.player? player with
  | none => rfl
  | some known => by_cases named : player = id <;> simp [named]

/-- Whoever has lost the connection does not get it back by a change that gives it to nobody. -/
theorem lost_updatePlayer {change : Player → Player}
    (lost : ∀ known : Player, known.isConnected = false → (change known).isConnected = false)
    (id : PlayerId) {player : PlayerId} (gone : host.isConnected player = false) :
    (host.updatePlayer id change).isConnected player = false := by
  rw [isConnected] at gone
  rw [isConnected, player?_updatePlayer]
  cases there : host.player? player with
  | none => rfl
  | some known =>
    have away : known.isConnected = false := by simpa [there] using gone
    by_cases named : player = id
    · simpa [named] using lost known away
    · simpa [named] using away

theorem player?_addPlayer {player : PlayerId} (known : player < host.everyone.length)
    (name : String) : (host.addPlayer name).1.player? player = host.player? player :=
  List.getElem?_append_left known

/-- Who is listed and who is where is the same for two hosts, and nobody has got a connection
back. -/
structure SamePlaces (host later : Host) : Prop where
  listed : later.listed = host.listed
  joined : later.everyone.length = host.everyone.length
  servers : ∀ player, later.serverOf player = host.serverOf player
  lost : ∀ player, host.isConnected player = false → later.isConnected player = false

theorem SamePlaces.of_same (listed : later.listed = host.listed)
    (everyone : later.everyone = host.everyone) : host.SamePlaces later where
  listed := listed
  joined := by rw [everyone]
  servers player := by rw [serverOf, serverOf, player?, player?, everyone]
  lost player gone := by rwa [isConnected, player?, everyone]

theorem SamePlaces.of_updatePlayer (host : Host) (id : PlayerId) {change : Player → Player}
    (server : ∀ known, (change known).server = known.server)
    (lost : ∀ known : Player, known.isConnected = false → (change known).isConnected = false) :
    host.SamePlaces (host.updatePlayer id change) where
  listed := rfl
  joined := List.length_modify ..
  servers player := by
    rw [serverOf_updatePlayer, serverOf]
    simp only [server, ite_self]
  lost _ gone := lost_updatePlayer lost id gone

end Host

namespace State
variable {made : HostEvent → Prop} {start state between later : State}
  {own news : List HostEvent}

/-! ## Steps -/

/-- One step in which players come, go on or leave, with the events of it that the host fires
by itself. In any other step code may have made the event up. -/
inductive Leg (made : HostEvent → Prop) (state : State) : List HostEvent → State → Prop
  | aside (change : Change) (still : change.travels = false) :
      Leg made state [] (state.change change)
  | made (event : HostEvent) (allowed : made event) : Leg made state [] (state.note (.fired event))
  | arrive (name : String) :
      Leg made state [.join state.host.everyone.length] (state.arrived name)
  | move (player : PlayerId) (server : ServerId) :
      Leg made state [.switch player (state.host.serverOf player) server]
        (state.moved player server)
  | leave {player : PlayerId} (listed : player ∈ state.host.listed)
      (lost : state.host.isConnected player = false) :
      Leg made state [.quit player] (state.left player)

/-- One step after another. -/
inductive Travels (made : HostEvent → Prop) (start : State) : List HostEvent → State → Prop
  | start : Travels made start [] start
  | step {own news : List HostEvent} {state later : State} (before : Travels made start own state)
      (leg : Leg made state news later) : Travels made start (own ++ news) later

namespace Travels

theorem single (leg : state.Leg made news later) : state.Travels made news later :=
  .step .start leg

theorem trans (first : start.Travels made own between) (second : between.Travels made news later) :
    start.Travels made (own ++ news) later := by
  induction second with
  | start =>
    rw [List.append_nil]
    exact first
  | step _ leg ih =>
    rw [← List.append_assoc]
    exact ih.step leg

theorem asides {changes : List Change} (still : ∀ change ∈ changes, change.travels = false) :
    state.Travels made [] (changes.foldl change state) := by
  induction changes generalizing state with
  | nil => exact .start
  | cons change rest ih =>
    obtain ⟨first, others⟩ := List.forall_mem_cons.mp still
    exact (single (.aside change first)).trans (ih others)

end Travels

/-! ## Where players are -/

/-- Changes by which nobody comes, goes on or leaves. -/
theorem still_change {change : Change} (still : change.travels = false) (state : State) :
    state.host.SamePlaces (state.change change).host ∧
      (state.change change).announced = state.announced := by
  cases registers : change.registers with
  | true =>
    obtain ⟨registry, adapters, logs, -, same⟩ := registers_change state registers
    rw [same]
    exact ⟨.of_same rfl rfl, rfl⟩
  | false =>
    cases change with
    | join | remove | move => cases still
    | note happening =>
      refine ⟨.of_same rfl rfl, ?_⟩
      have quiet : happening.travel? = none := by
        cases happening with
        | fired event =>
          have aside : event.isTravel = false := still
          simp [Happening.travel?, aside]
        | _ => rfl
      simp [announced, State.change, note, List.filterMap_append, quiet]
    | drop player reason =>
      exact ⟨.of_updatePlayer _ _ (fun _ => rfl) fun known _ => known.lost_disconnect reason, rfl⟩
    | permit player node held => exact ⟨.of_updatePlayer _ _ (fun _ => rfl) fun _ gone => gone, rfl⟩
    | tell user message =>
      cases user with
      | console name => exact ⟨.of_same rfl rfl, rfl⟩
      | player id => exact ⟨.of_updatePlayer _ _ (fun _ => rfl) fun _ gone => gone, rfl⟩
    | _ => first | exact ⟨.of_same rfl rfl, rfl⟩ | cases registers

/-- The events that the host has fired by itself tell where the players are, and nobody has
left the list who is still connected. -/
structure Placed (own : List HostEvent) (state : State) : Prop where
  roll : state.host.Roll
  lost : ∀ player < state.host.everyone.length, player ∉ state.host.listed →
    state.host.isConnected player = false
  joined : ∀ player, .join player ∈ own → player < state.host.everyone.length
  servers : ∀ player < state.host.everyone.length,
    state.host.serverOf player = HostEvent.serverOf? own player
  chained : HostEvent.Chained own

namespace Placed

theorem still (placed : state.Placed own) (same : state.host.SamePlaces later.host) :
    later.Placed own where
  roll := placed.roll.of_same same.listed same.joined
  lost player inside gone :=
    same.lost player (placed.lost player (same.joined ▸ inside) (same.listed ▸ gone))
  joined player told := same.joined ▸ placed.joined player told
  servers player inside :=
    (same.servers player).trans (placed.servers player (same.joined ▸ inside))
  chained := placed.chained

theorem arrive (placed : state.Placed own) (name : String) :
    (state.arrived name).Placed (own ++ [.join state.host.everyone.length]) := by
  let newcomer := state.host.everyone.length
  have host : (state.arrived name).host = (state.host.addPlayer name).1 := rfl
  have more : (state.arrived name).host.everyone.length = newcomer + 1 := List.length_append
  have earlier {player : PlayerId} (inside : player < (state.arrived name).host.everyone.length)
      (other : player ≠ newcomer) : player < newcomer := by
    rw [more] at inside
    exact Nat.lt_of_le_of_ne (Nat.le_of_lt_succ inside) other
  refine ⟨placed.roll.addPlayer name, fun player inside gone => ?_, fun player told => ?_,
    fun player inside => ?_, placed.chained.concat nofun⟩
  · have away : player ∉ state.host.listed ∧ player ≠ newcomer := by
      simpa [host, Host.addPlayer, newcomer] using gone
    have known := earlier inside away.2
    rw [host, Host.isConnected, Host.player?_addPlayer known]
    exact placed.lost player known away.1
  · rw [more]
    obtain old | new := List.mem_append.mp told
    · exact Nat.lt_succ_of_lt (placed.joined player old)
    · obtain rfl : player = newcomer := by simpa [newcomer] using new
      exact Nat.lt_succ_self _
  · by_cases new : player = newcomer
    · subst new
      rw [host, Host.serverOf, Host.player?_newcomer]
      exact (HostEvent.serverOf?_concat_self own (.join newcomer)).symm
    · have known := earlier inside new
      rw [host, Host.serverOf, Host.player?_addPlayer known,
        HostEvent.serverOf?_concat_ne (Ne.symm new)]
      exact placed.servers player known

/-- Sending the player of an event where the event says keeps with what the events tell. -/
theorem servers_sent (placed : state.Placed own) (event : HostEvent) {other : PlayerId}
    (inside : other < state.host.everyone.length) :
    (state.host.updatePlayer event.player fun known =>
      { known with server := event.server? }).serverOf other =
      HostEvent.serverOf? (own ++ [event]) other := by
  rw [Host.serverOf_updatePlayer]
  by_cases sent : other = event.player
  · obtain ⟨known, there⟩ : ∃ known, state.host.player? other = some known :=
      ⟨_, List.getElem?_eq_getElem inside⟩
    subst sent
    rw [there, HostEvent.serverOf?_concat_self, Option.bind_some, if_pos rfl]
  · rw [HostEvent.serverOf?_concat_ne (Ne.symm sent)]
    simpa only [sent, if_false, Host.serverOf] using placed.servers other inside

theorem move (placed : state.Placed own) (player : PlayerId) (server : ServerId) :
    (state.moved player server).Placed
      (own ++ [.switch player (state.host.serverOf player) server]) := by
  have joined : (state.moved player server).host.everyone.length =
      state.host.everyone.length := List.length_modify ..
  refine ⟨placed.roll.of_same rfl joined, fun other inside gone => ?_, fun other told => ?_,
    fun other inside => ?_, placed.chained.concat fun known previous target same told => ?_⟩
  · rw [joined] at inside
    exact Host.lost_updatePlayer (by exact fun _ away => away) player
      (placed.lost other inside gone)
  · rw [joined]
    exact placed.joined other (by simpa using told)
  · rw [joined] at inside
    exact placed.servers_sent (.switch player _ server) inside
  · cases same
    exact placed.servers player (placed.joined player told)

theorem leave (placed : state.Placed own) {player : PlayerId}
    (lost : state.host.isConnected player = false) :
    (state.left player).Placed (own ++ [.quit player]) := by
  have joined : (state.left player).host.everyone.length = state.host.everyone.length :=
    List.length_modify ..
  refine ⟨placed.roll.removePlayer player, fun other inside gone => ?_, fun other told => ?_,
    fun other inside => ?_, placed.chained.concat nofun⟩
  · rw [joined] at inside
    have away : other ∉ state.host.listed ∨ other = player := by
      simpa [left, note, change, updateHost, Host.removePlayer, or_iff_not_imp_left] using gone
    refine Host.lost_updatePlayer (by exact fun _ away => away) player ?_
    obtain unlisted | rfl := away
    · exact placed.lost other inside unlisted
    · exact lost
  · rw [joined]
    exact placed.joined other (by simpa using told)
  · rw [joined] at inside
    exact placed.servers_sent (.quit player) inside

/-- The players on a server are the connected ones whose latest switch led to it, in the order
in which they joined. -/
theorem playersOn_eq (placed : state.Placed own) (server : ServerId) :
    state.host.playersOn server =
      (List.range state.host.everyone.length).filter fun player =>
        state.host.isConnected player ∧ HostEvent.serverOf? own player = some server := by
  rw [Host.playersOn, placed.roll.players_eq placed.lost, List.filter_filter]
  refine List.filter_congr fun player member => ?_
  rw [placed.servers player (List.mem_range.mp member), Bool.decide_and, Bool.and_comm]
  simp

end Placed

/-- What one step keeps. -/
theorem Leg.placed (leg : state.Leg made news later) (placed : state.Placed own) :
    later.Placed (own ++ news) := by
  cases leg with
  | aside change still =>
    rw [List.append_nil]
    exact placed.still (still_change still state).1
  | made event allowed =>
    rw [List.append_nil]
    exact placed.still (.of_same rfl rfl)
  | arrive name => exact placed.arrive name
  | move player server => exact placed.move player server
  | leave listed lost => exact placed.leave lost

theorem Travels.placed (travels : start.Travels made news later) (placed : start.Placed own) :
    later.Placed (own ++ news) := by
  induction travels with
  | start =>
    rw [List.append_nil]
    exact placed
  | step _ leg ih =>
    rw [← List.append_assoc]
    exact leg.placed ih

theorem placed_initial (kind : Host.Kind) (surroundings : Surroundings) :
    (State.initial kind surroundings).Placed [] where
  roll := .empty kind
  lost _ inside := absurd inside (Nat.not_lt_zero _)
  joined _ told := nomatch told
  servers _ inside := absurd inside (Nat.not_lt_zero _)
  chained := fun _ _ _ _ _ same => nomatch List.nil_eq_append_iff.mp same

/-! ## What can be told from the history -/

/-- The history tells of all that the host fires by itself, and of nothing else that tells of
players who come, go on or leave, if code makes no such events up. -/
theorem Leg.announced (leg : state.Leg made news later)
    (aside : ∀ event, made event → event.isTravel = false) :
    later.announced = state.announced ++ news := by
  cases leg with
  | aside change still =>
    rw [List.append_nil]
    exact (still_change still state).2
  | made event allowed =>
    have still : (Change.note (.fired event)).travels = false := aside event allowed
    rw [List.append_nil]
    exact (still_change still state).2
  | arrive | move | leave => exact List.filterMap_append

theorem Travels.announced (travels : start.Travels made own later)
    (aside : ∀ event, made event → event.isTravel = false) :
    later.announced = start.announced ++ own := by
  induction travels with
  | start => exact (List.append_nil _).symm
  | step _ leg ih => rw [leg.announced aside, ih, List.append_assoc]

end State

/-! ## Runs -/

/-- A request does not have the host fire an event that code may not make up. -/
def Request.MakesUp (made : HostEvent → Prop) (_ : State) (request : Request) : Prop :=
  ∀ event, request = .fire event → made event

namespace World.Law
variable {made : HostEvent → Prop}

/-- The law that players come, go on and leave step by step, whatever code does that makes up
only the events that it may. -/
def traveling (made : HostEvent → Prop) : World.Law Memory where
  rule := Request.MakesUp made
  comes world later := world.Heeds (Request.MakesUp made) →
    later.Heeds (Request.MakesUp made) ∧ ∃ own, world.state.Travels made own later.state
  refl _ heeds := ⟨heeds, [], .start⟩
  trans first second heeds := by
    obtain ⟨kept, own, begun⟩ := first heeds
    obtain ⟨still, news, ended⟩ := second kept
    exact ⟨still, own ++ news, begun.trans ended⟩
  incidental change _ _ still heeds := ⟨heeds, [], .single (.aside change still)⟩
  arrived name _ heeds := ⟨heeds, _, .single (.arrive name)⟩
  moved player server _ heeds := ⟨heeds, _, .single (.move player server)⟩
  left _ _ listed lost heeds := ⟨heeds, _, .single (.leave listed lost)⟩
  fired event _ allowed heeds := ⟨heeds, [], .single (.made event (allowed event rfl))⟩
  asked _ _ _ heeds := ⟨heeds, [], .asides fun _ among => (Request.changes_plain among).2⟩
  remembered _ _ heeds := ⟨heeds, [], .start⟩
  defined _ _ written heeds :=
    ⟨List.forall_mem_append.mpr ⟨heeds, List.forall_mem_singleton.mpr written⟩, [], .start⟩
  reckless reckless _ heeds := absurd heeds reckless

theorem traveling_living : (traveling made : World.Law Memory).Living := by
  refine .of_grants fun state change still world _ heeds => ?_
  exact ⟨heeds, [], .single (.aside change still)⟩

end World.Law

/-- A switch that is asked for is the first thing that the host fires for it. -/
theorem Action.switch_travels {made : HostEvent → Prop} {call : Caller Memory}
    (steady : call.Keeps (.traveling made)) {world : World Memory}
    (heeds : world.Heeds (Request.MakesUp made)) (player : PlayerId) (server : ServerId) :
    ∃ rest, world.state.Travels made
      (.switch player (world.state.host.serverOf player) server :: rest)
      ((Action.switch call player server).on world).2.state := by
  obtain ⟨-, rest, travels⟩ := switch_comes steady player server world heeds
  have first : world.state.Travels made [.switch player (world.state.host.serverOf player) server]
      (world.state.moved player server) := .single (.move player server)
  exact ⟨rest, first.trans travels⟩

/-- A run of any program on a host, which may make up events of some kinds and have the host
fire them, or of all kinds. It goes on step by step, and each event of a player who comes,
goes on to a server or leaves, made-up ones apart, is fired in one step with that. At every
point that steps lead to, each switch of a player leads from where the player's previous one
led, or from nowhere if it is the first one since the player has joined or has been removed;
if no such events are made up, these are the ones in the history of the host. The players on
a server are those who are connected and whose latest switch led to it, in the order in which
they joined, so no one is on two. A request that is granted, by whatever code and however deep,
leads on by such steps, and if it is for a switch, the first of them is to the server that it
names. -/
theorem switches_form_a_chain {made : HostEvent → Prop} (kind : Host.Kind)
    (surroundings : Surroundings) (memory : Memory) (depth : Nat)
    {program : Program Memory .main} (heeds : program.Heeds (Request.MakesUp made) none) :
    let start := State.initial kind surroundings
    let ran := (World.initial kind surroundings memory).run depth program
    (∃ own, start.Travels made own ran.2.state) ∧
    (∀ own point, start.Travels made own point →
      HostEvent.Chained own ∧
      ((∀ event, made event → event.isTravel = false) → point.announced = own) ∧
      (∀ server, point.host.playersOn server =
        (List.range point.host.everyone.length).filter fun player =>
          point.host.isConnected player ∧ HostEvent.serverOf? own player = some server) ∧
      ∀ player one other, player ∈ point.host.playersOn one →
        player ∈ point.host.playersOn other → one = other) ∧
    ∀ (nested : Nat) (here : World Memory) (request : Request),
      here.Heeds (Request.MakesUp made) → Request.MakesUp made here.state request →
      ∃ news, here.state.Travels made news
          ((perform (callWithin nested) request).on here).2.state ∧
        ∀ player server, request = .switch player server →
          ∃ rest, news = .switch player (here.state.host.serverOf player) server :: rest := by
  intro start ran
  have living := @World.Law.traveling_living Memory made
  refine ⟨?_, fun own point travels => ?_, fun nested here request kept allowed => ?_⟩
  · have nothing : (World.initial kind surroundings memory).Heeds (Request.MakesUp made) :=
      fun code defined => nomatch defined
    exact (World.run_comes living _ depth heeds nothing).2
  · have placed : point.Placed own := travels.placed (State.placed_initial kind surroundings)
    refine ⟨placed.chained, fun aside => travels.announced aside, placed.playersOn_eq,
      fun player one other here there => ?_⟩
    have first := (List.mem_filter.mp here).2
    have second := (List.mem_filter.mp there).2
    exact Option.some.inj ((of_decide_eq_true first).symm.trans (of_decide_eq_true second))
  · have steady : (callWithin nested : Caller Memory).Keeps (.traveling made) :=
      callWithin_keeps living nested
    by_cases switches : ∃ player server, request = .switch player server
    · obtain ⟨player, server, rfl⟩ := switches
      obtain ⟨rest, travels⟩ := Action.switch_travels steady kept player server
      refine ⟨_, travels, fun other target same => ?_⟩
      cases same
      exact ⟨rest, rfl⟩
    · obtain ⟨-, news, travels⟩ := perform_comes living steady allowed kept
      exact ⟨news, travels, fun player server same => absurd ⟨player, server, same⟩ switches⟩

/-- A listener that sends whoever comes to the first server on to the second, and has the first
player quit on the way there. -/
def ferryman : Code Unit :=
  .hostListener (.observe fun
    | .switch player none 0 => .ask (.switch player 1) fun _ => .finish ()
    | .switch 0 (some 0) 1 => .ask (.quit 0) fun _ => .finish ()
    | _ => .finish ())

/-- Two players are sent to the first server, and the one who has quit once more. -/
def ferryProgram : Program Unit .main :=
  .define ferryman fun code => .ask (.listen "ferry" .switch code) fun _ =>
    .ask (.join "Steve") fun steve => .ask (.join "Alex") fun alex =>
      .ask (.switch steve 0) fun _ => .ask (.switch alex 0) fun _ =>
        .ask (.switch steve 2) fun _ => .finish ()

theorem ferry_switches_form_a_chain :
    ferryProgram.Heeds (Request.MakesUp (·.isTravel = false)) none ∧
      let ran := (World.initial .proxy ⟨.empty, [], "/", "/"⟩ ()).run 3 ferryProgram
      ran.2.state.announced = [.join 0, .join 1, .switch 0 none 0, .switch 0 (some 0) 1, .quit 0,
        .switch 1 none 0, .switch 1 (some 0) 1, .switch 0 none 2] ∧
      HostEvent.Chained ran.2.state.announced ∧ ran.2.state.host.playersOn 1 = [1] := by
  have listens (role : Role) (input : role.Input) :
      (ferryman role input).Heeds (Request.MakesUp (·.isTravel = false)) none := by
    cases role with
    | hearHost =>
      intro event
      dsimp only
      split
      · exact ⟨fun _ _ _ => nofun, fun _ => trivial⟩
      · exact ⟨fun _ _ _ => nofun, fun _ => trivial⟩
      · trivial
    | _ => trivial
  have heeds : ferryProgram.Heeds (Request.MakesUp (·.isTravel = false)) none :=
    ⟨listens, fun _ => ⟨fun _ _ _ => nofun, fun _ => ⟨fun _ _ _ => nofun, fun _ =>
      ⟨fun _ _ _ => nofun, fun _ => ⟨fun _ _ _ => nofun, fun _ => ⟨fun _ _ _ => nofun, fun _ =>
        ⟨fun _ _ _ => nofun, fun _ => trivial⟩⟩⟩⟩⟩⟩⟩
  obtain ⟨⟨own, travels⟩, points, -⟩ :=
    switches_form_a_chain .proxy ⟨.empty, [], "/", "/"⟩ () 3 heeds
  obtain ⟨chained, announced, views, -⟩ := points own _ travels
  have same := announced fun _ aside => aside
  refine ⟨heeds, by decide +kernel, same ▸ chained, ?_⟩
  rw [views, ← same]
  decide +kernel

end PluginBridge
