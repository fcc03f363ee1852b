import PluginBridge.Proofs.Players.Conduct

/-! What a host does with its players conducts itself well: each operation goes on step by
step, is not stopped by a panic and settles what it has announced. So do programs that work
on players only, and calls of listeners of any depth. -/
namespace PluginBridge
open Host (PlayerId)
variable {Memory : Type}

namespace Action
open Host (ServerId Listener)

section
variable {call : Caller Memory} (steady : Caller.Orderly call)
include steady

/-- Taking a player off the list who is on it: once the host has begun to announce the quit,
all that is owed is to tell the buses. -/
theorem conducts_removal {world : World Memory} (orderly : world.Orderly) {player : PlayerId}
    (listed : player ∈ world.state.host.listed)
    (lost : world.state.host.isConnected player = false) :
    (world.state.left player).Conducts world.state.host.everyone.length
      ((HostEvent.quit player).owes
        ((world.state.host.registry.listenersOf .quit).map (·.hearer)))
      ((remove call player).on world) := by
  let gone := world.alter (·.left player)
  have left : State.Step world.state gone.state := .leave listed lost
  have books : gone.state.Accounted := left.accounted orderly.books
  have due : gone.state.Due world.state.host.everyone.length (.quit player) :=
    ⟨nofun, fun _ => ⟨orderly.books.roll.joined player listed, world.state.history, [], rfl, nofun⟩⟩
  have told := (conducts_handAll steady (fun _ _ => orderly_pure ())
    (world.state.host.registry.listenersOf .quit) (show gone.Orderly from ⟨orderly.code, books⟩)
    left.onward.joined due).next
      books left.onward.joined fun _ => orderly_pure ()
  have ran : (remove call player).on world =
      (handAll call (fun _ _ => pure ()) (world.state.host.registry.listenersOf .quit)
        (.quit player) >>= fun _ => pure ()).on gone := by
    unfold remove
    rw [on_bind_ok (on_see ..), if_pos (List.contains_iff_mem.mpr listed)]
    rfl
  rwa [ran]

/-- Taking a player off the list who has lost the connection, if it is there. -/
theorem conducts_remove {world : World Memory} (orderly : world.Orderly) {player : PlayerId}
    (lost : world.state.host.isConnected player = false) :
    world.state.Conducts world.state.host.everyone.length 0 ((remove call player).on world) := by
  by_cases listed : player ∈ world.state.host.listed
  · have told := conducts_removal steady orderly listed lost
    have left : world.state.Passes world.state.host.everyone.length (world.state.left player) :=
      ⟨.single (.leave listed lost), [_], rfl, by simp [Happening.isConnectOf]⟩
    exact ⟨told.code, left.trans told.passes, told.calm, fun answer returned =>
      State.settles_left (told.settles answer returned)⟩
  · rw [on_remove_unlisted call listed]
    exact orderly_pure () world orderly

/-- Whoever has been taken off the list is not on it when that is done. -/
theorem unlisted_of_remove {world after : World Memory} (orderly : world.Orderly)
    {player : PlayerId} (lost : world.state.host.isConnected player = false)
    {ending : Except Stop Unit} (ran : (remove call player).on world = (ending, after)) :
    player ∉ after.state.host.listed := by
  by_cases listed : player ∈ world.state.host.listed
  · have told := conducts_removal steady orderly listed lost
    rw [ran] at told
    have left : (world.state.left player).host.everyone.length = world.state.host.everyone.length :=
      List.length_modify ..
    exact told.passes.course.onward.unlisted player (left ▸ orderly.books.roll.joined player listed)
      (by simp [State.left, State.note, State.change, State.updateHost, Host.removePlayer])
  · rw [on_remove_unlisted call listed] at ran
    cases ran
    exact listed

theorem orderly_disconnect (player : PlayerId) (reason : String) :
    (disconnect call player reason).Orderly := by
  intro world orderly
  refine (orderly_drop player reason world orderly).andThen fun answer between ran conducts => ?_
  obtain rfl := congrArg Prod.snd ran
  have lost := Host.isConnected_disconnect world.state.host player reason
  exact (conducts_remove steady (conducts.orderly orderly.books) lost).mono
    conducts.passes.course.onward.joined

/-- Firing an event that tells of nobody who comes or goes. -/
theorem orderly_fire (event : HostEvent) (aside : (Happening.fired event).isAside = true) :
    (fire call event).Orderly := by
  intro world orderly
  have noJoin : event.kind ≠ .join := by
    cases event with
    | join player => cases aside
    | _ => simp [HostEvent.kind]
  have noQuit : event.kind ≠ .quit := by
    cases event with
    | quit player => cases aside
    | _ => simp [HostEvent.kind]
  have handed := conducts_handAll steady (orderly_disconnect steady)
    (world.state.host.registry.listenersOf event.kind)
    (orderly.note (.fired event) (Happening.isAside_spec aside).1) le_rfl
    ⟨fun join => absurd join noJoin, fun quit => absurd quit noQuit⟩
  rw [HostEvent.owes_other noQuit] at handed
  obtain ⟨passes, settles⟩ := State.aside_conduct
    (show (Change.note (.fired event)).Aside from aside) world.state.host.everyone.length
    world.state
  exact .after passes settles handed

/-- The turns of those who hear a join. If an adapter is first in line, its bus has been told
already when its turn begins. -/
theorem conducts_joinTurns {world : World Memory} (orderly : world.Orderly) (name : String) :
    let player := world.state.host.everyone.length
    let joining := world.alter fun state =>
      (state.change (.join name)).note (.fired (.join player))
    (world.state.entered name).Conducts player 0
      ((handAll call (disconnect call) (world.state.host.registry.listenersOf .join)
        (.join player)).on joining) := by
  intro player joining
  have orderlyJoining : joining.Orderly :=
    ⟨orderly.code, (orderly.books.join name).note _ fun _ => rfl⟩
  have due (state : State) : state.Due player (.join player) := ⟨fun _ => le_rfl, nofun⟩
  have more : player ≤ joining.state.host.everyone.length :=
    (State.Onward.join world.state name).joined
  cases inLine : world.state.firstToldOfJoins? with
  | none =>
    have same : world.state.entered name = joining.state := by
      simp only [State.entered, inLine]
      rfl
    have turns := conducts_handAll steady (orderly_disconnect steady)
      (world.state.host.registry.listenersOf .join) orderlyJoining more (due _)
    rwa [HostEvent.owes_other (by simp [HostEvent.kind]), ← same] at turns
  | some first =>
    have same : world.state.entered name =
        joining.state.note (.dispatched first (.connect ⟨player, false, none⟩)) := by
      simp only [State.entered, inLine]
      rfl
    obtain ⟨listener, rest, listeners, hearer⟩ := State.firstToldOfJoins?_eq_some inLine
    have unifies : HostEvent.unified joining.state.host.kind (.join player) =
        .ok (.connect ⟨player, false, none⟩) := rfl
    have turn := (conducts_pass_told steady (orderly_disconnect steady) orderlyJoining first
      unifies).mono more
    rw [← same] at turn
    rw [listeners]
    unfold handAll hand
    simp only [hearer]
    refine turn.andThen fun answer between ran conducts => ?_
    obtain ⟨kind, named⟩ := pass_answer ran
    have others := conducts_handAll steady (orderly_disconnect steady) rest
      (conducts.orderly (orderly.books.enter name))
      ((State.entered_conduct name world.state).1.course.onward.joined.trans
        conducts.passes.course.onward.joined) ((due _).congr kind named)
    rwa [HostEvent.owes_other (by rw [kind]; exact nofun)] at others

/-- Firing a join: the adapter that is first in line tells its bus at once, and the others
have their turns after whatever comes of that. -/
theorem conducts_announceJoin {world : World Memory} (orderly : world.Orderly) (name : String) :
    world.state.Conducts world.state.host.everyone.length 0
      ((fire call (.join world.state.host.everyone.length)).on (world.entering name)) := by
  let logged := world.alter (·.log (.debug "Player joined" [("player", .text name)]))
  obtain ⟨passes, settles⟩ : world.state.Passes world.state.host.everyone.length logged.state ∧
      world.state.Settles 0 logged.state :=
    State.aside_conduct (show (Change.log _).Aside from trivial) _ world.state
  obtain ⟨entered, told⟩ := State.entered_conduct name logged.state
  have orderlyLogged : logged.Orderly := ⟨orderly.code, passes.course.accounted orderly.books⟩
  exact .after passes settles (.after entered told (conducts_joinTurns steady orderlyLogged name))

theorem orderly_join (name : String) : (join call name).Orderly := by
  intro world orderly
  rw [on_join call name world rfl]
  refine (conducts_announceJoin steady orderly name).andThen fun _ between _ conducts => ?_
  have still := conducts.orderly orderly.books
  have joined := conducts.passes.course.onward.joined
  rw [on_bind_ok (on_see ..)]
  split
  · next lost =>
    refine ((conducts_remove steady still (by simpa using lost)).mono joined).next still.books
      joined fun _ => orderly_pure _
  · exact (orderly_pure _ between still).mono joined

theorem orderly_chat (player : PlayerId) (message : String) :
    (chat call player message).Orderly := by
  refine (orderly_fire steady (.chat player message false) rfl).bind fun event => ?_
  split
  · refine Orderly.bind (orderly_update fun state => ?_) fun _ => orderly_pure _
    exact State.broadcast_reaches (fun _ _ => trivial)
      (chatLine (state.host.playerName player) _) state
  · exact orderly_pure none

theorem orderly_kick (player : PlayerId) (reason : String) : (kick call player reason).Orderly :=
  (orderly_fire steady (.kick player reason) rfl).bind fun _ =>
    orderly_disconnect steady player reason

theorem orderly_switch (player : PlayerId) (server : ServerId) :
    (switch call player server).Orderly :=
  (orderly_see _).bind fun previous =>
    (orderly_update fun state => .one state (.move player server) trivial).bind fun _ =>
      (orderly_fire steady (.switch player previous server) rfl).bind fun _ => orderly_pure ()

theorem orderly_connect (player : PlayerId) (server : ServerId) :
    (connect call player server).Orderly := by
  refine (orderly_see _).bind fun host => ?_
  split
  · exact orderly_switch steady player _
  · exact orderly_log _

theorem orderly_obey (event : Event) : (obey call event).Orderly := by
  unfold obey
  split
  · next player reason _ =>
    exact (orderly_disconnect steady player reason).bind fun _ => orderly_pure true
  · exact orderly_pure false

end

end Action

/-- A request that works on players conducts itself so, if calls do. -/
theorem perform_orderly {call : Caller Memory} (steady : call.Orderly) {request : Request}
    (ofPlayers : request.OfPlayers) : (perform call request).Orderly := by
  open PluginBridge.Action in
  cases request with simp only [perform]
  | look => exact orderly_see id
  | log record => exact orderly_log record
  | join name => exact orderly_join steady name
  | chat player message => exact orderly_chat steady player message
  | quit player => exact orderly_disconnect steady player quitReason
  | disconnect player reason => exact orderly_disconnect steady player reason
  | kick player reason => exact orderly_kick steady player reason
  | drop player reason => exact orderly_drop player reason
  | switch player server => exact orderly_switch steady player server
  | connect player server => exact orderly_connect steady player server
  | setPermission player node held =>
    exact orderly_update fun state => .one state (.permit player node held) trivial
  | tell user message => exact orderly_tell user message
  | obey event => exact orderly_obey steady event
  | addServer name address =>
    exact orderly_answer fun state => .one state (.addServer name address) trivial
  | sendData server channel data =>
    exact orderly_update fun state => .one state (.sendData server channel data) trivial
  | subscribe adapter kind owner priority code =>
    exact orderly_answer fun state =>
      .one state (.subscribe adapter kind owner priority code) trivial
  | unsubscribe adapter subscription =>
    exact orderly_answer fun state => .one state (.unsubscribe adapter subscription) trivial
  | unsubscribeOwner adapter owner =>
    exact orderly_answer fun state => .one state (.unsubscribeOwner adapter owner) trivial
  | _ => exact ofPlayers.elim

/-- Programs that work on players only conduct themselves so, if calls do. -/
theorem Program.Orderly.run {call : Caller Memory} (steady : call.Orderly) {role : Role}
    {program : Program Memory role} (allowed : program.Orderly) (subject : role.Subject)
    {world : World Memory} (orderly : world.Orderly) :
    let ran := (program.run call subject).run world
    world.state.Conducts world.state.host.everyone.length 0 (ran.1.caught, ran.2) ∧
      (role = .hearHost → ∀ payload, ran.1.ending ≠ .error (.panic payload)) := by
  induction program generalizing world with
  | finish result => exact ⟨⟨orderly.code, .refl .., nofun, fun _ _ => .refl _⟩, fun _ => nofun⟩
  | panic payload =>
    exact ⟨⟨orderly.code, .refl .., nofun, fun _ _ => .refl _⟩, fun hears => absurd hears allowed⟩
  | recollect next ih => exact ih world.memory (allowed world.memory) subject orderly
  | remember change next ih =>
    have kept : { world with memory := change world.memory }.Orderly :=
      ⟨orderly.code, orderly.books⟩
    exact ih allowed subject kept
  | observe next ih => exact ih subject (allowed subject) subject orderly
  | edit change next ih =>
    simp only [Program.run]
    split
    · exact ih _ (allowed _) _ orderly
    · exact ih _ (allowed _) _ orderly
  | define code next _ ih =>
    have defined : { world with shelf := world.shelf ++ [code] }.Orderly :=
      ⟨List.forall_mem_append.mpr ⟨orderly.code, List.forall_mem_singleton.mpr allowed.1⟩,
        orderly.books⟩
    exact ih world.shelf.length (allowed.2 _) subject defined
  | ask request next ih =>
    have granted := perform_orderly steady allowed.1 world orderly
    simp only [run_ask]
    generalize (perform call request).on world = ran at granted ⊢
    rcases ran with ⟨stop | reply, after⟩
    · refine ⟨⟨granted.code, granted.passes, Called.caught_calm _, fun answer caught => ?_⟩,
        fun _ payload same => granted.calm payload (congrArg _ (Except.error.inj same))⟩
      rcases stop with payload | _ | _
      · exact absurd rfl (granted.calm payload)
      · cases caught
      · cases caught
    · obtain ⟨second, calm⟩ := ih reply (allowed.2 reply) subject (granted.orderly orderly.books)
      exact ⟨.after granted.passes (granted.settles reply rfl)
        (second.mono granted.passes.course.onward.joined), calm⟩

theorem callWithin_orderly (depth : Nat) : (callWithin depth : Caller Memory).Orderly := by
  induction depth with
  | zero =>
    exact ⟨fun _ _ _ _ _ _ orderly => ⟨orderly.code, .refl .., nofun, nofun⟩, fun _ _ _ _ => nofun,
      fun _ _ _ => ⟨rfl, rfl⟩⟩
  | succ depth ih =>
    refine ⟨fun code role input subject world listens orderly => ?_,
      fun code event world orderly => ?_, fun code event world => ?_⟩
    · rw [callWithin_succ]
      cases there : world.shelf[code]? with
      | none => exact ⟨orderly.code, .refl .., nofun, nofun⟩
      | some written =>
        have allowed := orderly.code written (List.mem_of_getElem? there) role input listens
        exact (allowed.run ih subject orderly).1
    · rw [callWithin_succ]
      cases there : world.shelf[code]? with
      | none => exact nofun
      | some written =>
        have allowed := orderly.code written (List.mem_of_getElem? there) .hearHost () rfl
        exact (allowed.run ih event orderly).2 rfl
    · have edited := callWithin_edited (depth + 1) code event world
      exact ⟨edited.kind, edited.player⟩

end PluginBridge
