import PluginBridge.Proofs.State.Players
import PluginBridge.Proofs.State.Serving
import PluginBridge.Proofs.World.Listening
import PluginBridge.Script

/-! What becomes of a player who joins. A host cannot hold a join back: an adapter whose
bus refuses the player disconnects it, which announces a quit in the middle of the join's
delivery, and later adapters may refuse the player again. All the same the first refusal
settles the reason, and the quit is announced once. -/
namespace PluginBridge
open Host (PlayerId)
variable {Memory : Type}

/-- The reason that an edit gives. -/
def Edit.reason? : Edit → Option String
  | .cancelWith text => some text
  | .reason text => some text
  | _ => none

/-- The reason that some edits leave on a connect event: the last one counts. -/
def Edit.finalReason (edits : List Edit) : String :=
  (edits.filterMap Edit.reason?).getLast?.getD Connect.standardReason

theorem Event.connect_edits (edits : List Edit) (player : PlayerId) (flag : Bool)
    (reason : Option String) :
    ∃ held, edits.foldl (Role.amend .hear) (.connect ⟨player, flag, reason⟩) =
      .connect ⟨player, held, (edits.filterMap Edit.reason?).getLast?.or reason⟩ := by
  induction edits generalizing flag reason with
  | nil => exact ⟨flag, rfl⟩
  | cons edit rest ih =>
    rw [List.foldl_cons]
    cases edit with
    | message text => exact ih flag reason
    | cancelled now => exact ih now reason
    | cancelWith now =>
      obtain ⟨held, same⟩ := ih true (some now)
      exact ⟨held, same.trans (by simp [Edit.reason?, List.getLast?_cons, Option.or_some])⟩
    | reason now =>
      obtain ⟨held, same⟩ := ih flag (some now)
      exact ⟨held, same.trans (by simp [Edit.reason?, List.getLast?_cons, Option.or_some])⟩

/-- What a connect event that is left cancelled comes to is told by the edits that were
made to it. -/
theorem Event.refusal_edits (edits : List Edit) (player : PlayerId) :
    let event := edits.foldl (Role.amend .hear) (.connect ⟨player, false, none⟩)
    event.refusal? =
      if event.isCancelled then some (player, Edit.finalReason edits) else none := by
  obtain ⟨held, same⟩ := connect_edits edits player false none
  simp only [same]
  simp [refusal?, isCancelled, cancelled?, Edit.finalReason, Connect.disconnectReason]

/-- No edit changes what a disconnect event says. -/
theorem Event.disconnect_edits (edits : List Edit) (player : PlayerId) :
    edits.foldl (Role.amend .hear) (.disconnect player) = .disconnect player := by
  induction edits with
  | nil => rfl
  | cons edit rest ih => cases edit <;> exact ih

/-- The first adapter whose bus refuses a player, with the reason it gives, if the adapters
are told of the player one after another. -/
def World.refusal? (world : World Memory) (player : PlayerId) :
    List AdapterId → Memory → Option String
  | [], _ => none
  | id :: rest, memory =>
    let hearing := world.hearing id (.connect ⟨player, false, none⟩) memory
    if hearing.event.isCancelled then some (Edit.finalReason hearing.edits)
    else world.refusal? player rest hearing.memory

/-- Whom the adapters refuse is a matter of their buses and of the code. -/
theorem World.refusal?_congr {world other : World Memory}
    (adapters : other.state.adapters = world.state.adapters) (shelf : other.shelf = world.shelf)
    (player : PlayerId) (ids : List AdapterId) (memory : Memory) :
    other.refusal? player ids memory = world.refusal? player ids memory := by
  have same : other.hearing = world.hearing := by
    unfold World.hearing State.bus State.adapter
    rw [adapters, shelf]
  induction ids generalizing memory with
  | nil => rfl
  | cons id rest ih => simp only [refusal?, same, ih]

namespace World.Overheard
variable {world after : World Memory} {news : List Happening}

theorem refusal? (overheard : world.Overheard after news) (player : PlayerId)
    (ids : List AdapterId) (memory : Memory) :
    after.refusal? player ids memory = world.refusal? player ids memory :=
  World.refusal?_congr overheard.adapters overheard.shelf player ids memory

/-- How often something of note has happened by now. -/
theorem countP (overheard : world.Overheard after news) {noted : Happening → Bool}
    (newsworthy : ∀ happening, noted happening = true → happening.isNews = true) :
    after.state.history.countP noted = world.state.history.countP noted + news.countP noted := by
  obtain ⟨more, begun, rfl⟩ := overheard.history
  rw [begun, List.countP_append, List.countP_filter]
  congr 1
  refine List.countP_congr fun happening _ => ?_
  rw [Bool.and_eq_true]
  exact ⟨fun seen => ⟨seen, newsworthy happening seen⟩, And.left⟩

end World.Overheard

/-- A world that a player of a name has just entered. -/
def World.entering (world : World Memory) (name : String) : World Memory :=
  (world.alter fun state => { state with host := (state.host.addPlayer name).1 }).alter
    (·.log (.debug "Player joined" [("player", .text name)]))

/-- The same world once the host has begun to fire the join. -/
def World.joining (world : World Memory) (name : String) : World Memory :=
  (world.entering name).alter (·.note (.fired (.join world.state.host.everyone.length)))

/-- A join that is fired is no other news. -/
theorem World.countP_joining {world : World Memory} {name : String} {noted : Happening → Bool}
    (other : noted (.fired (.join world.state.host.everyone.length)) = false) :
    (world.joining name).state.history.countP noted = world.state.history.countP noted := by
  refine (List.countP_append ..).trans ?_
  simp [other]
  rfl

namespace Action
variable (depth : Nat)

/-- What an adapter's turn at a join comes to, up to the point where it may turn the player
away. -/
theorem on_pass_join {world : World Memory} {id : AdapterId}
    (attentive : world.Attentive id .connect) (player : PlayerId)
    (turnAway : PlayerId → String → Action Memory Unit) :
    let hearing := world.hearing id (.connect ⟨player, false, none⟩) world.memory
    ∃ after, world.Overheard after [.dispatched id (.connect ⟨player, false, none⟩)] ∧
      after.memory = hearing.memory ∧
      (pass (callWithin (depth + 1)) turnAway id (.join player)).on world =
        if hearing.event.isCancelled then
          (turnAway player (Edit.finalReason hearing.edits) >>= fun _ =>
            pure (.join player)).on after
        else (.ok (.join player), after) := by
  obtain ⟨after, overheard, memory, ran⟩ := on_pass_listens depth id (.join player) rfl
    attentive turnAway
  refine ⟨after, overheard, memory, ran.trans ?_⟩
  have outcome := Event.refusal_edits
    (world.hearing id (.connect ⟨player, false, none⟩) world.memory).edits player
  rw [← World.hearing_event] at outcome
  rw [outcome]
  cases (world.hearing id (.connect ⟨player, false, none⟩) world.memory).event.isCancelled <;> rfl

/-- An adapter's turn at a quit turns nobody away. -/
theorem on_pass_quit {world : World Memory} {id : AdapterId}
    (attentive : world.Attentive id .disconnect) (player : PlayerId)
    (turnAway : PlayerId → String → Action Memory Unit) :
    ∃ after, world.Overheard after [.dispatched id (.disconnect player)] ∧
      (pass (callWithin (depth + 1)) turnAway id (.quit player)).on world =
        (.ok (.quit player), after) := by
  obtain ⟨after, overheard, -, ran⟩ := on_pass_listens depth id (.quit player) rfl
    attentive turnAway
  refine ⟨after, overheard, ran.trans ?_⟩
  have outcome := (World.hearing_event world id (.disconnect player) world.memory).trans
    (Event.disconnect_edits ..)
  rw [outcome]
  rfl

/-- All adapters hear of a quit, one after another. -/
theorem on_handAll_quit (player : PlayerId) (turnAway : PlayerId → String → Action Memory Unit)
    (ids : List AdapterId) {listeners : List Host.Listener}
    (heard : listeners.map (·.hearer) = ids.map .adapter) (world : World Memory)
    (attentive : ∀ id ∈ ids, world.Attentive id .disconnect) :
    ∃ after, world.Overheard after (ids.map fun id => .dispatched id (.disconnect player)) ∧
      (handAll (callWithin (depth + 1)) turnAway listeners (.quit player)).on world =
        (.ok (.quit player), after) := by
  induction ids generalizing listeners world with
  | nil =>
    obtain rfl := List.map_eq_nil_iff.mp heard
    exact ⟨world, .refl world, rfl⟩
  | cons id rest ih =>
    obtain ⟨listener, others, rfl, hearer, heard⟩ := List.map_eq_cons_iff.mp heard
    obtain ⟨mine, theirs⟩ := List.forall_mem_cons.mp attentive
    obtain ⟨between, overheard, ran⟩ := on_pass_quit depth mine player turnAway
    obtain ⟨after, more, ended⟩ := ih heard between
      (fun other member => overheard.attentive (theirs other member))
    refine ⟨after, overheard.trans more, ?_⟩
    unfold handAll hand
    simp only [hearer]
    rw [on_bind_ok ran]
    exact ended

/-- A player who has just been taken off the list is announced to all adapters. -/
theorem on_announceQuit_listens (world : World Memory) {adapters : List AdapterId}
    (served : (world.state.host.registry.listenersOf .quit).map (·.hearer) =
      adapters.map .adapter)
    (attentive : ∀ id ∈ adapters, world.Attentive id .disconnect) (player : PlayerId) :
    ∃ after, world.Overheard after
        (.fired (.quit player) :: adapters.map fun id => .dispatched id (.disconnect player)) ∧
      (announceQuit (callWithin (depth + 1)) player).on world = (.ok (), after) := by
  obtain ⟨after, overheard, ran⟩ := on_handAll_quit depth player (fun _ _ => pure ()) adapters
    served (world.alter (·.note (.fired (.quit player)))) attentive
  refine ⟨after, (World.Overheard.note world (.fired (.quit player))).trans overheard, ?_⟩
  unfold announceQuit
  have fired : (fireWith (callWithin (depth + 1)) (fun _ _ => pure ()) (.quit player)).on world =
      (.ok (.quit player), after) := ran
  rw [on_bind_ok fired]
  rfl

end Action

/-- A host that has disconnected a player and taken it off the list. -/
def Host.without (host : Host) (player : PlayerId) (reason : String) : Host :=
  (host.updatePlayer player (·.disconnect reason)).removePlayer player

/-- A player who has been disconnected and is not listed any more. -/
def Host.Gone (host : Host) (player : PlayerId) (reason : String) : Prop :=
  player ∉ host.listed ∧ host.reason? player = some reason

theorem Host.gone_without {host : Host} {player : PlayerId} {known : Host.Player}
    (there : host.player? player = some known) (connected : known.disconnectReason = none)
    (reason : String) : (host.without player reason).Gone player reason := by
  constructor
  · simp [without, removePlayer]
  · change ((host.updatePlayer player _).updatePlayer player _).reason? player = _
    simp [reason?, player?_updatePlayer, there, Player.disconnect, connected]

/-- A player who has been disconnected keeps the first reason. -/
theorem Host.Gone.disconnect_again {host : Host} {player : PlayerId} {reason : String}
    (gone : host.Gone player reason) (other : String) :
    host.updatePlayer player (·.disconnect other) = host := by
  obtain ⟨known, there, given⟩ := Option.bind_eq_some_iff.mp gone.2
  have same : known.disconnect other = known := by
    cases known
    simp_all [Player.disconnect]
  simp only [updatePlayer]
  congr 1
  refine List.ext_getElem? fun index => ?_
  rw [List.getElem?_modify]
  by_cases named : player = index
  · subst named
    rw [player?] at there
    simp [there, same]
  · simp [named]

namespace Action
variable (depth : Nat)

/-- Disconnecting a listed player takes it off the list and announces that, once. -/
theorem on_disconnect_listed {world : World Memory} {adapters : List AdapterId}
    (served : (world.state.host.registry.listenersOf .quit).map (·.hearer) =
      adapters.map .adapter)
    (attentive : ∀ id ∈ adapters, world.Attentive id .disconnect) {player : PlayerId}
    (listed : player ∈ world.state.host.listed) (reason : String) :
    ∃ after, (world.alter (·.updateHost (·.without player reason))).Overheard after
        (.fired (.quit player) :: adapters.map fun id => .dispatched id (.disconnect player)) ∧
      (disconnect (callWithin (depth + 1)) player reason).on world = (.ok (), after) := by
  obtain ⟨after, overheard, ran⟩ := on_announceQuit_listens depth
    (world.alter (·.updateHost (·.without player reason))) served attentive player
  refine ⟨after, overheard, ?_⟩
  unfold disconnect drop remove updateHost
  rw [on_bind_ok (on_update ..), on_bind_ok (on_see ..)]
  have there : (((world.alter (·.updateHost
      (·.updatePlayer player (·.disconnect reason)))).state.host.listed).contains player) = true :=
    List.contains_iff_mem.mpr listed
  rw [there]
  exact ran

/-- Nobody is taken off the list twice. -/
theorem on_remove_unlisted (call : Caller Memory) {world : World Memory} {player : PlayerId}
    (unlisted : player ∉ world.state.host.listed) :
    (remove call player).on world = (.ok (), world) := by
  unfold remove
  rw [on_bind_ok (on_see ..)]
  simp [unlisted]

/-- Disconnecting a player who is gone does nothing. -/
theorem on_disconnect_gone (call : Caller Memory) {world : World Memory} {player : PlayerId}
    {reason : String} (gone : world.state.host.Gone player reason) (other : String) :
    (disconnect call player other).on world = (.ok (), world) := by
  unfold disconnect drop updateHost
  have same : world.alter (·.updateHost (·.updatePlayer player (·.disconnect other))) = world := by
    simp only [World.alter, State.updateHost, gone.disconnect_again]
  rw [on_bind_ok (on_update ..), same]
  exact on_remove_unlisted call gone.1

/-- Once a player is gone, the adapters that are still to be told of the join are told, and
whatever they make of it changes nothing any more. -/
theorem on_handAll_join_gone {player : PlayerId} {reason : String} (ids : List AdapterId)
    {listeners : List Host.Listener}
    (heard : listeners.map (·.hearer) = ids.map .adapter) (world : World Memory)
    (attentive : ∀ id ∈ ids, world.Attentive id .connect)
    (gone : world.state.host.Gone player reason) :
    ∃ after,
      world.Overheard after (ids.map fun id => .dispatched id (.connect ⟨player, false, none⟩)) ∧
      (handAll (callWithin (depth + 1)) (disconnect (callWithin (depth + 1))) listeners
        (.join player)).on world = (.ok (.join player), after) := by
  induction ids generalizing listeners world with
  | nil =>
    obtain rfl := List.map_eq_nil_iff.mp heard
    exact ⟨world, .refl world, rfl⟩
  | cons id rest ih =>
    obtain ⟨listener, others, rfl, hearer, heard⟩ := List.map_eq_cons_iff.mp heard
    obtain ⟨mine, theirs⟩ := List.forall_mem_cons.mp attentive
    obtain ⟨between, overheard, -, ran⟩ :=
      on_pass_join depth mine player (disconnect (callWithin (depth + 1)))
    have still : between.state.host.Gone player reason := overheard.host ▸ gone
    have passed : (pass (callWithin (depth + 1)) (disconnect (callWithin (depth + 1))) id
        (.join player)).on world = (.ok (.join player), between) := by
      rw [ran]
      split
      · rw [on_bind_ok (on_disconnect_gone _ still _)]
        rfl
      · rfl
    obtain ⟨after, more, ended⟩ := ih heard between
      (fun other member => overheard.attentive (theirs other member)) still
    refine ⟨after, overheard.trans more, ?_⟩
    unfold handAll hand
    simp only [hearer]
    rw [on_bind_ok passed]
    exact ended

/-- All adapters are told of a join, one after another. Nothing else happens unless one of
them refuses the player, and then the player goes at that point, with one announcement. -/
theorem on_handAll_join {player : PlayerId} {adapters : List AdapterId} (ids : List AdapterId)
    {listeners : List Host.Listener}
    (heard : listeners.map (·.hearer) = ids.map .adapter) (world : World Memory)
    (served : (world.state.host.registry.listenersOf .quit).map (·.hearer) =
      adapters.map .adapter)
    (attentive : ∀ id ∈ ids, world.Attentive id .connect)
    (leaving : ∀ id ∈ adapters, world.Attentive id .disconnect)
    (listed : player ∈ world.state.host.listed) {known : Host.Player}
    (there : world.state.host.player? player = some known)
    (connected : known.disconnectReason = none) :
    let told (ids : List AdapterId) : List Happening :=
      ids.map fun id => .dispatched id (.connect ⟨player, false, none⟩)
    ∃ after,
      (handAll (callWithin (depth + 1)) (disconnect (callWithin (depth + 1))) listeners
        (.join player)).on world = (.ok (.join player), after) ∧
      match world.refusal? player ids world.memory with
      | none => world.Overheard after (told ids)
      | some reason => ∃ between early late, world.Overheard between (told early) ∧
        (between.alter (·.updateHost (·.without player reason))).Overheard after
          ((.fired (.quit player) ::
            adapters.map fun id => .dispatched id (.disconnect player)) ++ told late) := by
  intro told
  induction ids generalizing listeners world with
  | nil =>
    obtain rfl := List.map_eq_nil_iff.mp heard
    exact ⟨world, rfl, .refl world⟩
  | cons id rest ih =>
    obtain ⟨listener, others, rfl, hearer, heard⟩ := List.map_eq_cons_iff.mp heard
    obtain ⟨mine, theirs⟩ := List.forall_mem_cons.mp attentive
    obtain ⟨between, overheard, memory, ran⟩ :=
      on_pass_join depth mine player (disconnect (callWithin (depth + 1)))
    unfold World.refusal? handAll hand
    simp only [hearer]
    cases refused :
      (world.hearing id (.connect ⟨player, false, none⟩) world.memory).event.isCancelled
    all_goals simp only [refused, if_true, if_false, Bool.false_eq_true] at ran ⊢
    · obtain ⟨after, ended, outcome⟩ := ih heard between
        (by rw [overheard.host]; exact served)
        (fun other member => overheard.attentive (theirs other member))
        (fun other member => overheard.attentive (leaving other member))
        (overheard.host ▸ listed) (overheard.host ▸ there)
      rw [overheard.refusal?, memory] at outcome
      refine ⟨after, (on_bind_ok ran).trans ended, ?_⟩
      split at outcome
      · exact overheard.trans outcome
      · obtain ⟨later, early, late, first, second⟩ := outcome
        exact ⟨later, id :: early, late, overheard.trans first, second⟩
    · generalize Edit.finalReason
        (world.hearing id (.connect ⟨player, false, none⟩) world.memory).edits = reason at ran ⊢
      obtain ⟨turned, farewell, away⟩ := on_disconnect_listed depth
        (by rw [overheard.host]; exact served)
        (fun other member => overheard.attentive (leaving other member))
        (overheard.host ▸ listed) reason
      have gone : turned.state.host.Gone player reason := by
        rw [farewell.host]
        exact Host.gone_without (overheard.host ▸ there) connected _
      obtain ⟨after, late, ended⟩ := on_handAll_join_gone depth rest heard turned
        (fun other member => farewell.attentive (overheard.attentive (theirs other member))) gone
      refine ⟨after, ?_, between, [id], rest, overheard, farewell.trans late⟩
      rw [on_bind_ok (ran.trans (on_bind_ok away))]
      exact ended

omit depth in
/-- A join once the player has entered. -/
theorem on_join (call : Caller Memory) (name : String) (world : World Memory) {player : PlayerId}
    (newcomer : player = world.state.host.everyone.length) :
    (join call name).on world =
      (fire call (.join player) >>= fun _ => see (·.host.isConnected player) >>= fun connected =>
        if !connected then remove call player >>= fun _ => pure player else pure player).on
          (world.entering name) := by
  subst newcomer
  rfl

/-- What a join comes to: nothing but the announcements of it, unless an adapter refuses
the player, who then goes in the midst of them. -/
theorem on_join_listens {world : World Memory} {adapters : List AdapterId}
    (served : world.state.ServedBy adapters)
    (attentive : ∀ id ∈ adapters, world.Attentive id .connect ∧ world.Attentive id .disconnect)
    (name : String) :
    let player := world.state.host.everyone.length
    let told (ids : List AdapterId) : List Happening :=
      ids.map fun id => .dispatched id (.connect ⟨player, false, none⟩)
    ∃ after, (join (callWithin (depth + 1)) name).on world = (.ok player, after) ∧
      match world.refusal? player adapters world.memory with
      | none => (world.joining name).Overheard after (told adapters)
      | some reason => ∃ between early late, (world.joining name).Overheard between (told early) ∧
        (between.alter (·.updateHost (·.without player reason))).Overheard after
          ((.fired (.quit player) ::
            adapters.map fun id => .dispatched id (.disconnect player)) ++ told late) := by
  intro player told
  have there : (world.joining name).state.host.player? player = some (.named name) :=
    Host.player?_newcomer ..
  have among : player ∈ (world.joining name).state.host.players := Host.newcomer_mem_players ..
  obtain ⟨listed, connected⟩ := List.mem_filter.mp among
  obtain ⟨after, handed, outcome⟩ := on_handAll_join depth adapters served.joins
    (world.joining name) served.quits (fun id member => (attentive id member).1)
    (fun id member => (attentive id member).2) listed there rfl
  have same : (world.joining name).refusal? player adapters (world.joining name).memory =
      world.refusal? player adapters world.memory :=
    World.refusal?_congr (by rfl) (by rfl) player adapters world.memory
  rw [same] at outcome
  have fired : (fire (callWithin (depth + 1)) (.join player)).on (world.entering name) =
      (.ok (.join player), after) := handed
  have settled : after.state.host.isConnected player = true ∨ player ∉ after.state.host.listed := by
    split at outcome
    · exact .inl (outcome.host ▸ connected)
    · obtain ⟨between, early, late, first, second⟩ := outcome
      right
      rw [second.host]
      exact (Host.gone_without (first.host ▸ there) rfl _).1
  refine ⟨after, ?_, outcome⟩
  rw [on_join _ name world (show player = _ from rfl), on_bind_ok fired, on_bind_ok (on_see ..)]
  obtain connected | unlisted := settled
  · simp [connected]
  · split
    · rw [on_bind_ok (on_remove_unlisted _ unlisted)]
      rfl
    · rfl

end Action

/-! ## Announcements on the way -/

namespace Happening

theorem isNews_of_isQuitOf {player : PlayerId} (happening : Happening)
    (quit : happening.isQuitOf player = true) : happening.isNews = true := by
  cases happening with
  | called code role input => cases quit
  | _ => rfl

theorem isNews_of_isDisconnectOf {adapter : AdapterId} {player : PlayerId} (happening : Happening)
    (gone : happening.isDisconnectOf adapter player = true) : happening.isNews = true := by
  cases happening with
  | called code role input => cases gone
  | _ => rfl

theorem quits_told (other : PlayerId) (event : Event) (ids : List AdapterId) :
    (ids.map fun id => dispatched id event).countP (isQuitOf other) = 0 := by
  simp [List.countP_eq_zero, isQuitOf]

theorem farewells_connects (id : AdapterId) (player : PlayerId) (details : Connect)
    (ids : List AdapterId) :
    (ids.map fun id => dispatched id (.connect details)).countP (isDisconnectOf id player) = 0 := by
  simp [List.countP_eq_zero, isDisconnectOf]

theorem farewells_told {id : AdapterId} (player : PlayerId) {ids : List AdapterId}
    (once : ids.Nodup) (member : id ∈ ids) :
    (ids.map fun id => dispatched id (.disconnect player)).countP (isDisconnectOf id player) =
      1 := by
  rw [List.countP_map, ← List.count_eq_one_of_mem once member, List.count_eq_countP]
  refine List.countP_congr fun other _ => ?_
  simp [isDisconnectOf]

end Happening

/-- A player joins a host whose join and quit listeners are those of some adapters, on whose
buses listeners only read and edit what they hear, as often as they like, and may fail. If
no adapter's connect event is left cancelled, the player is on the host and no quit was
announced. Otherwise the player is not listed, and the reason is that of the first adapter
whose event was left cancelled: the last one that was given there, or the standard one.
One quit was announced, and each bus was told once that the player is gone. -/
theorem join_obeys_first_refusal (depth : Nat) (world : World Memory) (name : String)
    (adapters : List AdapterId) (served : world.state.ServedBy adapters)
    (attentive : ∀ id ∈ adapters, world.Attentive id .connect ∧ world.Attentive id .disconnect) :
    let player := world.state.host.everyone.length
    ∃ after, (Action.join (callWithin (depth + 1)) name).on world = (.ok player, after) ∧
      match world.refusal? player adapters world.memory with
      | none => player ∈ after.state.host.players ∧
          ∀ other, after.state.quits other = world.state.quits other
      | some reason => player ∉ after.state.host.listed ∧
          after.state.host.reason? player = some reason ∧
          (∀ other, after.state.quits other =
            world.state.quits other + if other = player then 1 else 0) ∧
          ∀ id ∈ adapters,
            after.state.farewells id player = world.state.farewells id player + 1 := by
  intro player
  obtain ⟨after, joined, outcome⟩ := Action.on_join_listens depth served attentive name
  refine ⟨after, joined, ?_⟩
  generalize world.refusal? player adapters world.memory = refused at outcome ⊢
  cases refused with
  | none =>
    refine ⟨outcome.host ▸ Host.newcomer_mem_players .., fun other => ?_⟩
    rw [State.quits, outcome.countP Happening.isNews_of_isQuitOf, Happening.quits_told,
      World.countP_joining rfl]
    rfl
  | some reason =>
    obtain ⟨between, early, late, first, second⟩ := outcome
    have there : between.state.host.player? player = some (.named name) :=
      first.host ▸ Host.player?_newcomer ..
    have gone := Host.gone_without there rfl reason
    have counted {noted : Happening → Bool}
        (newsworthy : ∀ happening, noted happening = true → happening.isNews = true)
        (noJoin : noted (.fired (.join player)) = false)
        (noConnect : ∀ ids : List AdapterId, (ids.map fun id =>
          Happening.dispatched id (.connect ⟨player, false, none⟩)).countP noted = 0) :
        after.state.history.countP noted = world.state.history.countP noted +
          (.fired (.quit player) ::
            adapters.map fun id => .dispatched id (.disconnect player)).countP noted := by
      rw [second.countP newsworthy, List.countP_append, noConnect, Nat.add_zero]
      refine congrArg (· + _) ?_
      exact (first.countP newsworthy).trans (by rw [noConnect, World.countP_joining noJoin]; rfl)
    rw [second.host]
    refine ⟨gone.1, gone.2, fun other => ?_, fun id member => ?_⟩
    · rw [State.quits,
        counted Happening.isNews_of_isQuitOf rfl (fun ids => Happening.quits_told ..),
        List.countP_cons, Happening.quits_told, Nat.zero_add]
      simp only [Happening.isQuitOf, decide_eq_true_eq, eq_comm (a := player)]
      rfl
    · rw [State.farewells, counted Happening.isNews_of_isDisconnectOf rfl
        (fun ids => Happening.farewells_connects ..), List.countP_cons,
        Happening.farewells_told player served.once member]
      rfl

/-- A listener that refuses players and panics, one that gives another reason and fails, and
one that refuses players for a reason of its own. -/
def rivalShelf : List (Code Unit) :=
  [.listener (.edit (.cancelWith "full") fun _ => .panic .other),
    .listener (.edit (.reason "closed") fun _ => .finish (.error "refused")),
    .listener (.edit (.cancelWith "late") fun _ => .finish (.ok ()))]

/-- The first adapter's bus has the first two of these listeners, the second one's the
third. -/
def rivalChanges : List Change :=
  [.newAdapter "memory" "CONSOLE" false, .newAdapter "memory" "CONSOLE" false, .attach 0,
    .attach 1, .subscribe 0 (some .connect) "main" .lowest 0,
    .subscribe 0 (some .connect) "main" .normal 1, .subscribe 1 none "second" .normal 2]

def rivalWorld : World Unit where
  state := rivalChanges.foldl State.change (.initial .server ⟨.empty, [], "/", "/"⟩)
  memory := ()
  shelf := rivalShelf

/-- Both adapters refuse the player. The reason is the last one given on the first bus. -/
theorem join_refused_by_rivals :
    rivalWorld.state.ServedBy [0, 1] ∧
      (∀ id ∈ [0, 1], rivalWorld.Attentive id .connect ∧ rivalWorld.Attentive id .disconnect) ∧
      ∃ after, (Action.join (callWithin 1) "Steve").on rivalWorld = (.ok 0, after) ∧
        0 ∉ after.state.host.listed ∧
        after.state.host.reason? 0 = some "closed" ∧
        after.state.quits 0 = 1 ∧ after.state.farewells 0 0 = 1 ∧
        after.state.farewells 1 0 = 1 := by
  have served : rivalWorld.state.ServedBy [0, 1] :=
    ⟨by decide, by decide +kernel, by decide +kernel⟩
  have listens (code : CodeId) (member : code < 3) :
      ListensAs rivalWorld.shelf code .hear () :=
    match code, member with
    | 0, _ | 1, _ | 2, _ => ⟨_, rfl, fun _ => trivial⟩
  have attentive : ∀ id ∈ [0, 1],
      rivalWorld.Attentive id .connect ∧ rivalWorld.Attentive id .disconnect := by
    have known : ∀ id ∈ [0, 1], ∀ listener ∈ (rivalWorld.state.bus id).listeners .connect ++
        (rivalWorld.state.bus id).listeners .disconnect, listener.code < 3 := by
      decide +kernel
    intro id member
    exact ⟨fun listener among => listens _ (known id member _ (List.mem_append_left _ among)),
      fun listener among => listens _ (known id member _ (List.mem_append_right _ among))⟩
  have refused : rivalWorld.refusal? 0 [0, 1] () = some "closed" := by
    decide +kernel
  obtain ⟨after, joined, outcome⟩ :=
    join_obeys_first_refusal 0 rivalWorld "Steve" [0, 1] served attentive
  have newcomer : rivalWorld.state.host.everyone.length = 0 := by
    decide +kernel
  rw [newcomer] at joined outcome
  rw [refused] at outcome
  obtain ⟨unlisted, given, quits, farewells⟩ := outcome
  refine ⟨served, attentive, after, joined, unlisted, given, ?_, ?_, ?_⟩
  · rw [quits]
    decide +kernel
  · rw [farewells 0 (by decide)]
    decide +kernel
  · rw [farewells 1 (by decide)]
    decide +kernel

end PluginBridge
