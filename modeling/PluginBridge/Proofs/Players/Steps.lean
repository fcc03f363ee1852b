import Mathlib.Logic.Relation
import PluginBridge.Proofs.State.Players

/-! The players of a host as a system of steps. Whatever operations on players do, however
deep they are nested in one another, comes to these few steps, and only a player who is
listed and has lost the connection can be taken off the list and announced to have quit.
What each step keeps holds at every point of every run. -/
namespace PluginBridge
open Host (PlayerId)

/-- Whether a happening tells of nobody who comes or goes. -/
def Happening.isAside : Happening → Bool
  | .fired (.join _) | .fired (.quit _) => false
  | .dispatched _ (.connect _) | .dispatched _ (.disconnect _) => false
  | _ => true

/-- An aside announces no quit and tells no bus of anyone. -/
theorem Happening.isAside_spec {happening : Happening} (aside : happening.isAside = true) :
    (∀ player, happening.isQuitOf player = false) ∧
      (∀ adapter player, happening.isConnectOf adapter player = false) ∧
      ∀ adapter player, happening.isDisconnectOf adapter player = false := by
  cases happening with
  | called code role input => exact ⟨fun _ => rfl, fun _ _ => rfl, fun _ _ => rfl⟩
  | fired event => cases event with
    | join | quit => cases aside
    | _ => exact ⟨fun _ => rfl, fun _ _ => rfl, fun _ _ => rfl⟩
  | dispatched adapter event => cases event with
    | connect | disconnect => cases aside
    | _ => exact ⟨fun _ => rfl, fun _ _ => rfl, fun _ _ => rfl⟩

/-- By a history, the host has announced that a player has quit, and no adapter has told
its bus since that the player has connected. -/
def Happening.Leaving (history : List Happening) (player : PlayerId) : Prop :=
  ∃ opening closing, history = opening ++ .fired (.quit player) :: closing ∧
    ∀ happening ∈ closing, ∀ adapter, happening.isConnectOf adapter player = false

/-- Changes by which nobody comes or goes and no listener of the host does. -/
def Change.Aside : Change → Prop
  | .note happening => happening.isAside = true
  | .log _ | .move .. | .permit .. | .tell .. | .addServer .. | .sendData .. => True
  | .subscribe .. | .unsubscribe .. | .unsubscribeOwner .. => True
  | _ => False

namespace State

/-- The adapter that is told of a join before all others who hear it. -/
def firstToldOfJoins? (state : State) : Option AdapterId :=
  match state.host.registry.listenersOf .join with
  | ⟨_, _, _, .adapter first⟩ :: _ => some first
  | _ => none

theorem firstToldOfJoins?_eq_some {state : State} {first : AdapterId}
    (told : state.firstToldOfJoins? = some first) :
    ∃ listener rest, state.host.registry.listenersOf .join = listener :: rest ∧
      listener.hearer = .adapter first := by
  unfold firstToldOfJoins? at told
  split at told
  · next listeners =>
    cases told
    exact ⟨_, _, listeners, rfl⟩
  · cases told

/-- A player of a name joins and the host begins to fire that. If the first of those who
hear it is an adapter, it tells its bus before anything else can happen. -/
def entered (state : State) (name : String) : State :=
  let player := state.host.everyone.length
  let joined := (state.change (.join name)).note (.fired (.join player))
  match state.firstToldOfJoins? with
  | some first => joined.note (.dispatched first (.connect ⟨player, false, none⟩))
  | none => joined

@[simp] theorem host_entered (state : State) (name : String) :
    (state.entered name).host = (state.host.addPlayer name).1 := by
  unfold entered
  dsimp only
  split <;> rfl

/-- Whoever enters is announced to join, and the first in line is told of it, but nobody is
told of anyone else, or of someone who goes. -/
theorem entered_history (state : State) (name : String) :
    let player := state.host.everyone.length
    ∃ more, (state.entered name).history = state.history ++ more ∧ .fired (.join player) ∈ more ∧
      (∀ first, state.firstToldOfJoins? = some first →
        more.any (Happening.isConnectOf first player) = true) ∧
      ∀ happening ∈ more, (∀ other, happening.isQuitOf other = false) ∧
        (∀ adapter other, happening.isDisconnectOf adapter other = false) ∧
        ∀ adapter other, happening.isConnectOf adapter other = true → player ≤ other := by
  intro player
  unfold entered
  cases state.firstToldOfJoins? with
  | none =>
    refine ⟨[.fired (.join player)], by simp [note, change, updateHost, player], by simp,
      nofun, ?_⟩
    simp [Happening.isQuitOf, Happening.isDisconnectOf, Happening.isConnectOf]
  | some first =>
    refine ⟨[.fired (.join player), .dispatched first (.connect ⟨player, false, none⟩)],
      by simp [note, change, updateHost, player], by simp, fun other same => ?_, ?_⟩
    · cases same
      simp [Happening.isConnectOf]
    · simp [Happening.isQuitOf, Happening.isDisconnectOf, Happening.isConnectOf]

inductive Step : State → State → Prop
  | aside {state : State} (change : Change) (aside : change.Aside) :
      Step state (state.change change)
  | drop {state : State} (player : PlayerId) (reason : String) :
      Step state (state.change (.drop player reason))
  | enter {state : State} (name : String) : Step state (state.entered name)
  | leave {state : State} {player : PlayerId} (listed : player ∈ state.host.listed)
      (lost : state.host.isConnected player = false) : Step state (state.left player)
  | greet {state : State} (adapter : AdapterId) (details : Connect) :
      Step state (state.note (.dispatched adapter (.connect details)))
  | farewell {state : State} (adapter : AdapterId) {player : PlayerId}
      (leaving : Happening.Leaving state.history player) :
      Step state (state.note (.dispatched adapter (.disconnect player)))

/-- One step after another. -/
abbrev Course : State → State → Prop := Relation.ReflTransGen Step

end State

/-! ## What a step leaves as it is -/

namespace Host
variable {host : Host}

/-- Why those who ever joined were disconnected, in the order they joined. -/
def reasons (host : Host) : List (Option String) :=
  host.everyone.map (·.disconnectReason)

@[simp] theorem length_reasons (host : Host) : host.reasons.length = host.everyone.length :=
  List.length_map ..

theorem reason?_eq (host : Host) (player : PlayerId) :
    host.reason? player = host.reasons[player]?.join := by
  simp only [reason?, player?, reasons, List.getElem?_map]
  cases host.everyone[player]? <;> rfl

/-- Of those who have joined, the ones who were disconnected have a reason for it. -/
theorem isConnected_eq_false_iff {player : PlayerId} (joined : player < host.everyone.length) :
    host.isConnected player = false ↔ ∃ reason, host.reason? player = some reason := by
  simp only [isConnected, reason?, player?, List.getElem?_eq_getElem joined, Option.any_some,
    Option.bind_some, Player.isConnected]
  cases host.everyone[player].disconnectReason <;> simp

/-- Only those who have joined have a reason. -/
theorem joined_of_reason {player : PlayerId} (given : host.reason? player ≠ none) :
    player < host.everyone.length := by
  by_contra beyond
  have unknown : host.player? player = none :=
    List.getElem?_eq_none (Nat.le_of_not_lt beyond)
  exact given (by rw [reason?, unknown]; rfl)

theorem reasons_updatePlayer {change : Player → Player}
    (same : ∀ known, (change known).disconnectReason = known.disconnectReason) (id : PlayerId) :
    (host.updatePlayer id change).reasons = host.reasons := by
  refine List.ext_getElem? fun index => ?_
  simp only [reasons, updatePlayer, List.getElem?_map, List.getElem?_modify]
  cases host.everyone[index]? with
  | none => rfl
  | some known => by_cases named : id = index <;> simp [named, same]

end Host

namespace State
variable {state later : State}

/-- What an aside leaves: who is listed, why players were disconnected and who listens to
the host. -/
theorem aside_change {change : Change} (aside : change.Aside) (state : State) :
    (state.change change).host.listed = state.host.listed ∧
      (state.change change).host.reasons = state.host.reasons ∧
      (state.change change).host.registry = state.host.registry ∧
      ∃ more, (state.change change).history = state.history ++ more ∧
        ∀ happening ∈ more, happening.isAside = true := by
  have silent (later : State) (same : later.history = state.history) :
      ∃ more, later.history = state.history ++ more ∧
        ∀ happening ∈ more, happening.isAside = true :=
    ⟨[], same.trans (List.append_nil _).symm, by simp⟩
  cases change with
  | note happening => exact ⟨rfl, rfl, rfl, [happening], rfl, List.forall_mem_singleton.mpr aside⟩
  | tell user message =>
    cases user with
    | console name => exact ⟨rfl, rfl, rfl, silent _ rfl⟩
    | player id =>
      exact ⟨rfl, Host.reasons_updatePlayer (by exact fun _ => rfl) id, rfl, silent _ rfl⟩
  | move player server =>
    exact ⟨rfl, Host.reasons_updatePlayer (by exact fun _ => rfl) player, rfl, silent _ rfl⟩
  | permit player node held =>
    exact ⟨rfl, Host.reasons_updatePlayer (by exact fun _ => rfl) player, rfl, silent _ rfl⟩
  | log | addServer | sendData | subscribe | unsubscribe | unsubscribeOwner =>
    exact ⟨rfl, rfl, rfl, silent _ rfl⟩
  | _ => exact aside.elim

/-- What is not among the happenings that have been added is not counted more often. -/
theorem countP_of_quiet {more : List Happening} (history : later.history = state.history ++ more)
    {noted : Happening → Bool} (quiet : ∀ happening ∈ more, noted happening = false) :
    later.history.countP noted = state.history.countP noted := by
  have none : more.countP noted = 0 :=
    List.countP_eq_zero.mpr fun happening member => by simp [quiet happening member]
  rw [history, List.countP_append, none, Nat.add_zero]

/-- What asides are not is not counted more often after one. -/
theorem countP_aside {change : Change} (aside : change.Aside) (state : State)
    {noted : Happening → Bool}
    (other : ∀ happening, happening.isAside = true → noted happening = false) :
    (state.change change).history.countP noted = state.history.countP noted := by
  obtain ⟨-, -, -, more, history, quiet⟩ := aside_change aside state
  exact countP_of_quiet history fun happening member => other happening (quiet happening member)

/-- What stays once it has come about: reasons that were given, who has been taken off the
list, what has happened, and the listeners of the host. -/
structure Onward (state later : State) : Prop where
  registry : later.host.registry = state.host.registry
  joined : state.host.everyone.length ≤ later.host.everyone.length
  reasons : ∀ player reason, state.host.reason? player = some reason →
    later.host.reason? player = some reason
  unlisted : ∀ player < state.host.everyone.length, player ∉ state.host.listed →
    player ∉ later.host.listed
  history : state.history <+: later.history

namespace Onward
variable {between : State}

theorem refl (state : State) : state.Onward state :=
  ⟨rfl, le_rfl, fun _ _ given => given, fun _ _ gone => gone, List.prefix_refl _⟩

theorem trans (first : state.Onward between) (second : between.Onward later) :
    state.Onward later where
  registry := second.registry.trans first.registry
  joined := first.joined.trans second.joined
  reasons player reason given := second.reasons player reason (first.reasons player reason given)
  unlisted player joined gone :=
    second.unlisted player (joined.trans_le first.joined) (first.unlisted player joined gone)
  history := first.history.trans second.history

theorem note (state : State) (happening : Happening) : state.Onward (state.note happening) :=
  { refl state with history := List.prefix_append .. }

theorem of_same (listed : later.host.listed = state.host.listed)
    (reasons : later.host.reasons = state.host.reasons)
    (registry : later.host.registry = state.host.registry)
    (history : state.history <+: later.history) : state.Onward later where
  registry := registry
  joined := by rw [← Host.length_reasons, ← Host.length_reasons, reasons]
  reasons player reason given := by rw [Host.reason?_eq] at given ⊢; rwa [reasons]
  unlisted player _ gone := listed ▸ gone
  history := history

theorem drop (state : State) (player : PlayerId) (reason : String) :
    state.Onward (state.change (.drop player reason)) where
  registry := rfl
  joined := by simp [change, updateHost, Host.updatePlayer]
  reasons other given known := by
    obtain ⟨record, there, why⟩ := Option.bind_eq_some_iff.mp known
    simp only [change, updateHost, Host.reason?, Host.player?_updatePlayer, there, Option.map_some,
      Option.bind_some]
    split
    · simp [Host.Player.disconnect, why]
    · exact why
  unlisted _ _ gone := gone
  history := List.prefix_refl _

theorem join (state : State) (name : String) : state.Onward (state.change (.join name)) where
  registry := rfl
  joined := by simp [change, updateHost, Host.addPlayer]
  reasons player reason given := by
    obtain ⟨record, there, why⟩ := Option.bind_eq_some_iff.mp given
    obtain ⟨inside, -⟩ := List.getElem?_eq_some_iff.mp there
    simp only [change, updateHost, Host.reason?, Host.player?, Host.addPlayer,
      List.getElem?_append_left inside]
    exact given
  unlisted player known gone := by
    simp only [change, updateHost, Host.addPlayer, List.mem_append, List.mem_singleton, not_or]
    exact ⟨gone, Nat.ne_of_lt known⟩
  history := List.prefix_refl _

theorem enter (state : State) (name : String) : state.Onward (state.entered name) := by
  have fired := (join state name).trans (.note _ (.fired (.join state.host.everyone.length)))
  unfold entered
  dsimp only
  split
  · exact fired.trans (.note ..)
  · exact fired

theorem remove (state : State) (player : PlayerId) :
    state.Onward (state.change (.remove player)) where
  registry := rfl
  joined := by simp [change, updateHost, Host.removePlayer, Host.updatePlayer]
  reasons other reason given := by
    rw [Host.reason?_eq] at given ⊢
    rw [← given]
    exact congrArg (fun reasons => reasons[other]?.join)
      (Host.reasons_updatePlayer (by exact fun _ => rfl) player)
  unlisted other _ gone among := gone (List.mem_of_mem_filter among)
  history := List.prefix_refl _

theorem leave (state : State) (player : PlayerId) : state.Onward (state.left player) :=
  (remove state player).trans (.note ..)

/-- Whoever has lost the connection does not get it back. -/
theorem lost (onward : state.Onward later) {player : PlayerId}
    (joined : player < state.host.everyone.length)
    (lost : state.host.isConnected player = false) : later.host.isConnected player = false := by
  obtain ⟨reason, given⟩ := (Host.isConnected_eq_false_iff joined).mp lost
  exact (Host.isConnected_eq_false_iff (joined.trans_le onward.joined)).mpr
    ⟨reason, onward.reasons player reason given⟩

end Onward

theorem Step.onward (step : state.Step later) : state.Onward later := by
  cases step with
  | aside change aside =>
    obtain ⟨listed, reasons, registry, more, history, -⟩ := aside_change aside state
    exact .of_same listed reasons registry (history ▸ List.prefix_append ..)
  | drop player reason => exact .drop state player reason
  | enter name => exact .enter state name
  | leave listed lost => exact .leave state _
  | greet adapter details => exact .note ..
  | farewell adapter leaving => exact .note ..

theorem Course.onward (course : state.Course later) : state.Onward later := by
  induction course with
  | refl => exact .refl state
  | tail _ step ih => exact ih.trans step.onward

/-! ## The books of the host -/

/-- The host's books are right: the list of players is in order, nobody has left it who is
still connected, and a quit was announced once for each who has left it, and for no one
else. -/
structure Accounted (state : State) : Prop where
  roll : state.host.Roll
  lost : ∀ player < state.host.everyone.length, player ∉ state.host.listed →
    state.host.isConnected player = false
  announced : ∀ player, state.quits player =
    if player < state.host.everyone.length ∧ player ∉ state.host.listed then 1 else 0

namespace Accounted

/-- The players of the host are those who have joined and have no reason why they were
disconnected, in the order in which they joined. -/
theorem players_eq (accounted : state.Accounted) :
    state.host.players = (List.range state.host.everyone.length).filter fun player =>
      state.host.reason? player = none := by
  rw [accounted.roll.players_eq accounted.lost]
  refine List.filter_congr fun player member => ?_
  have lost := Host.isConnected_eq_false_iff (List.mem_range.mp member)
  cases connected : state.host.isConnected player with
  | false =>
    obtain ⟨reason, given⟩ := lost.mp connected
    simp [given]
  | true =>
    refine (decide_eq_true (Option.eq_none_iff_forall_ne_some.mpr fun reason given => ?_)).symm
    rw [lost.mpr ⟨reason, given⟩] at connected
    cases connected

/-- A quit was announced once at most, and only for someone who is neither listed nor
connected any more. -/
theorem quits_le_one (accounted : state.Accounted) (player : PlayerId) :
    state.quits player ≤ 1 ∧ (0 < state.quits player →
      player ∉ state.host.listed ∧ state.host.reason? player ≠ none) := by
  rw [accounted.announced]
  split
  · next gone =>
    obtain ⟨reason, given⟩ := (Host.isConnected_eq_false_iff gone.1).mp
      (accounted.lost player gone.1 gone.2)
    exact ⟨le_rfl, fun _ => ⟨gone.2, by simp [given]⟩⟩
  · exact ⟨Nat.zero_le 1, fun some => absurd some (lt_irrefl 0)⟩

theorem quits_eq_one (accounted : state.Accounted) {player : PlayerId}
    (given : state.host.reason? player ≠ none) (unlisted : player ∉ state.host.listed) :
    state.quits player = 1 := by
  rw [accounted.announced, if_pos ⟨Host.joined_of_reason given, unlisted⟩]

theorem of_same (accounted : state.Accounted) (listed : later.host.listed = state.host.listed)
    (joined : later.host.everyone.length = state.host.everyone.length)
    (onward : state.Onward later)
    (quits : ∀ player, later.quits player = state.quits player) : later.Accounted where
  roll := accounted.roll.of_same listed joined
  lost player inside gone :=
    onward.lost (joined ▸ inside) (accounted.lost player (joined ▸ inside) (listed ▸ gone))
  announced player := by rw [quits, accounted.announced, listed, joined]

theorem note (accounted : state.Accounted) (happening : Happening)
    (other : ∀ player, happening.isQuitOf player = false) : (state.note happening).Accounted :=
  accounted.of_same rfl rfl (.note ..) fun player => by simp [quits_note, other]

theorem aside (accounted : state.Accounted) {change : Change} (aside : change.Aside) :
    (state.change change).Accounted := by
  obtain ⟨listed, reasons, -, -⟩ := aside_change aside state
  refine accounted.of_same listed ?_ (Step.aside change aside).onward fun player =>
    countP_aside aside state fun happening aside => (Happening.isAside_spec aside).1 player
  rw [← Host.length_reasons, reasons, Host.length_reasons]

theorem drop (accounted : state.Accounted) (player : PlayerId) (reason : String) :
    (state.change (.drop player reason)).Accounted :=
  accounted.of_same rfl (List.length_modify ..) (.drop ..) fun _ => rfl

theorem join (accounted : state.Accounted) (name : String) :
    (state.change (.join name)).Accounted := by
  have newcomer (player : PlayerId) :
      player < state.host.everyone.length + 1 ∧
        player ∉ state.host.listed ++ [state.host.everyone.length] ↔
      player < state.host.everyone.length ∧ player ∉ state.host.listed := by
    simp only [List.mem_append, List.mem_singleton, not_or]
    constructor
    · rintro ⟨inside, gone, other⟩
      exact ⟨lt_of_le_of_ne (Nat.le_of_lt_succ inside) other, gone⟩
    · rintro ⟨inside, gone⟩
      exact ⟨Nat.lt_succ_of_lt inside, gone, Nat.ne_of_lt inside⟩
  have joined : (state.change (.join name)).host.everyone.length =
      state.host.everyone.length + 1 := List.length_append
  refine ⟨accounted.roll.addPlayer name, fun player inside gone => ?_, fun player => ?_⟩
  · obtain ⟨known, gone⟩ := (newcomer player).mp ⟨joined ▸ inside, gone⟩
    exact (Onward.join state name).lost known (accounted.lost player known gone)
  · rw [joined]
    exact (accounted.announced player).trans (if_congr (newcomer player).symm rfl rfl)

theorem enter (accounted : state.Accounted) (name : String) : (state.entered name).Accounted := by
  have fired := (accounted.join name).note (.fired (.join state.host.everyone.length)) fun _ => rfl
  unfold entered
  dsimp only
  split
  · exact fired.note _ fun _ => rfl
  · exact fired

theorem leave (accounted : state.Accounted) {player : PlayerId}
    (listed : player ∈ state.host.listed) (lost : state.host.isConnected player = false) :
    (state.left player).Accounted := by
  have joined : (state.left player).host.everyone.length = state.host.everyone.length :=
    List.length_modify ..
  have gone (other : PlayerId) : other ∉ (state.left player).host.listed ↔
      other ∉ state.host.listed ∨ other = player := by
    simp [left, change, updateHost, Host.removePlayer, State.note, or_iff_not_imp_left]
  refine ⟨accounted.roll.removePlayer player, fun other inside away => ?_, fun other => ?_⟩
  · rw [joined] at inside
    refine (Onward.leave state player).lost inside ?_
    obtain away | rfl := (gone other).mp away
    · exact accounted.lost other inside away
    · exact lost
  · have fired : (state.left player).quits other =
        state.quits other + if other = player then 1 else 0 := by
      rw [left, quits_note]
      simp only [Happening.isQuitOf, decide_eq_true_eq, eq_comm (a := player)]
      rfl
    simp only [fired, accounted.announced, joined, gone]
    by_cases same : other = player
    · subst same
      simp [listed, accounted.roll.joined other listed]
    · simp [same]

end Accounted

theorem Step.accounted (step : state.Step later) (accounted : state.Accounted) :
    later.Accounted := by
  cases step with
  | aside change aside => exact accounted.aside aside
  | drop player reason => exact accounted.drop player reason
  | enter name => exact accounted.enter name
  | leave listed lost => exact accounted.leave listed lost
  | greet adapter details => exact accounted.note _ fun _ => rfl
  | farewell adapter leaving => exact accounted.note _ fun _ => rfl

theorem Course.accounted (course : state.Course later) (accounted : state.Accounted) :
    later.Accounted := by
  induction course with
  | refl => exact accounted
  | tail _ step ih => exact step.accounted ih

end State
end PluginBridge
