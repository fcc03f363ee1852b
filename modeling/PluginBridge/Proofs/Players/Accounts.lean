import PluginBridge.Proofs.Players.Operations
import PluginBridge.Script

/-! The host's books over whole runs. Whoever works on players, programs or listeners in
the midst of one another's deliveries, the players are those who have joined and are still
connected, reasons stay, and whoever leaves is announced once, by the host to its listeners
and by each adapter to its bus. -/
namespace PluginBridge
open Host (PlayerId)
variable {Memory : Type}

/-- Nobody has joined the host yet and nothing has been announced. -/
structure State.Deserted (state : State) : Prop where
  nobody : state.host.everyone = []
  unlisted : state.host.listed = []
  quiet : state.news = []

namespace State.Deserted
variable {state : State}

/-- What news is has not been counted. -/
theorem countP_eq_zero (deserted : state.Deserted) {noted : Happening → Bool}
    (newsworthy : ∀ happening, noted happening = true → happening.isNews = true) :
    state.history.countP noted = 0 := by
  refine List.countP_eq_zero.mpr fun happening member seen => ?_
  have among : happening ∈ state.news :=
    List.mem_filter.mpr ⟨member, newsworthy happening seen⟩
  rw [deserted.quiet] at among
  cases among

theorem quits (deserted : state.Deserted) (player : PlayerId) : state.quits player = 0 :=
  deserted.countP_eq_zero Happening.isNews_of_isQuitOf

theorem farewells (deserted : state.Deserted) (adapter : AdapterId) (player : PlayerId) :
    state.farewells adapter player = 0 :=
  deserted.countP_eq_zero Happening.isNews_of_isDisconnectOf

theorem accounted (deserted : state.Deserted) : state.Accounted where
  roll := ⟨by simp [deserted.unlisted], by simp [deserted.unlisted]⟩
  lost := by simp [deserted.nobody]
  announced player := by simp [deserted.quits, deserted.nobody]

end State.Deserted

/-- The player whom a request has let join or sent away. -/
def Request.player? : (request : Request) → request.Reply → Option PlayerId
  | .join _, player => some player
  | .quit player, _ | .disconnect player _, _ | .kick player _, _ => some player
  | _, _ => none

namespace Action
variable {call : Caller Memory} (steady : Caller.Orderly call)
include steady

theorem unlisted_of_disconnect {world after : World Memory} (orderly : world.Orderly)
    {player : PlayerId} {reason : String} {ending : Except Stop Unit}
    (ran : (disconnect call player reason).on world = (ending, after)) :
    player ∉ after.state.host.listed := by
  have dropped := orderly_drop player reason world orderly
  have removed : (remove call player).on (world.alter (·.change (.drop player reason))) =
      (ending, after) := ran
  exact unlisted_of_remove steady (dropped.orderly orderly.books)
    (Host.isConnected_disconnect world.state.host player reason) removed

theorem unlisted_of_join {world after : World Memory} (orderly : world.Orderly) {name : String}
    {player : PlayerId} (ran : (join call name).on world = (.ok player, after))
    (lost : after.state.host.isConnected player = false) : player ∉ after.state.host.listed := by
  have announced := conducts_announceJoin steady orderly name
  rw [on_join call name world rfl] at ran
  obtain ⟨event, between, fired, ran⟩ := ok_of_bind ran
  rw [fired] at announced
  rw [on_bind_ok (on_see ..)] at ran
  split at ran
  · next away =>
    obtain ⟨_, removed, taken, ran⟩ := ok_of_bind ran
    cases ran
    exact unlisted_of_remove steady (announced.orderly orderly.books) (by simpa using away) taken
  · next stays =>
    cases ran
    simp [lost] at stays

/-- Whoever is disconnected when a request returns that let it join or sent it away is not
listed any more. -/
theorem unlisted_of_perform {world after : World Memory} (orderly : world.Orderly)
    {request : Request} {reply : request.Reply} {player : PlayerId}
    (about : request.player? reply = some player)
    (ran : (perform call request).on world = (.ok reply, after))
    (lost : after.state.host.isConnected player = false) : player ∉ after.state.host.listed := by
  cases request with
  | quit other =>
    cases about
    exact unlisted_of_disconnect steady orderly ran
  | disconnect other reason =>
    cases about
    exact unlisted_of_disconnect steady orderly ran
  | kick other reason =>
    cases about
    obtain ⟨event, between, fired, ran⟩ := ok_of_bind ran
    have conducts := orderly_fire steady (.kick player reason) rfl world orderly
    rw [fired] at conducts
    exact unlisted_of_disconnect steady (conducts.orderly orderly.books) ran
  | join name =>
    obtain rfl : reply = player := Option.some.inj about
    exact unlisted_of_join steady orderly ran lost
  | _ => cases about

end Action

/-- Code that is orderly whether it listens to a bus or to the host. -/
theorem Code.Orderly.of_roles {code : Code Memory} (hears : (code .hear ()).Orderly)
    (hearsHost : (code .hearHost ()).Orderly) : Code.Orderly code
  | .hear, (), _ => hears
  | .hearHost, (), _ => hearsHost

/-- A run on a host that nobody has joined before, of a program that works on players, with
listeners that do so too whenever they are called. It goes on step by step, and at every
point that steps lead to, the players of the host are those who have joined and have no
reason, in the order in which they joined; a quit was announced once at most for each
player, and only for those who are neither listed nor connected; and reasons stay. A request
that is made at such a point, by whatever code and however deep, leads to such a point
again, and if it lets a player join or sends it away, it returns with one quit announced
for the player, unless the player is still connected. When the run has come to its end, an
adapter that hears of quits once has told its bus once of each player who was taken off the
list, and of nobody else. -/
theorem players_are_accounted_for (depth : Nat) (world : World Memory)
    (program : Program Memory .main) (deserted : world.state.Deserted)
    (code : ∀ code ∈ world.shelf, Code.Orderly code) (orderly : program.Orderly) :
    let ran := world.run depth program
    world.state.Course ran.2.state ∧
    (∀ point, world.state.Course point →
      (point.host.players = (List.range point.host.everyone.length).filter fun player =>
        point.host.reason? player = none) ∧
      (∀ player, point.quits player ≤ 1 ∧ (0 < point.quits player →
        player ∉ point.host.listed ∧ point.host.reason? player ≠ none)) ∧
      ∀ later, point.Course later → ∀ player reason,
        point.host.reason? player = some reason → later.host.reason? player = some reason) ∧
    (∀ (nested : Nat) (here : World Memory) (request : Request), world.state.Course here.state →
      (∀ code ∈ here.shelf, Code.Orderly code) → request.OfPlayers →
      let granted := (perform (callWithin nested) request).on here
      here.state.Course granted.2.state ∧
      ∀ reply player, granted.1 = .ok reply → request.player? reply = some player →
        granted.2.state.host.reason? player ≠ none → granted.2.state.quits player = 1) ∧
    (ran.1 = .ok () → ∀ adapter, world.state.heralds adapter = 1 → ∀ player,
      ran.2.state.farewells adapter player =
        if player < ran.2.state.host.everyone.length ∧ player ∉ ran.2.state.host.listed
        then 1 else 0) := by
  intro ran
  have books := deserted.accounted
  have conducts := (orderly.run (callWithin_orderly depth) () ⟨code, books⟩).1
  refine ⟨conducts.passes.course, fun point course => ?_, ?_, ?_⟩
  · have accounted := course.accounted books
    exact ⟨accounted.players_eq, accounted.quits_le_one, fun later further =>
      further.onward.reasons⟩
  · intro nested here request course shelf ofPlayers granted
    have orderlyHere : here.Orderly := ⟨shelf, course.accounted books⟩
    have further : here.state.Course granted.2.state :=
      (perform_orderly (callWithin_orderly nested) ofPlayers here orderlyHere).passes.course
    refine ⟨further, fun reply player returned about given => ?_⟩
    obtain ⟨reason, known⟩ := Option.ne_none_iff_exists'.mp given
    have lost := (Host.isConnected_eq_false_iff (Host.joined_of_reason given)).mpr ⟨reason, known⟩
    exact (further.accounted orderlyHere.books).quits_eq_one given
      (Action.unlisted_of_perform (callWithin_orderly nested) orderlyHere about
        (Prod.ext returned rfl) lost)
  · intro ended adapter once player
    have settled := conducts.settles (.ok (), ()) (Called.caught_of_ok ended) adapter player
    rw [deserted.farewells, deserted.quits, once, Nat.mul_zero, Nat.zero_add,
      Nat.one_mul] at settled
    exact settled.trans ((conducts.passes.course.accounted books).announced player)

/-- A listener of the host that has whoever speaks kicked, one on a bus that disconnects
whoever is gone once more and panics, and one that lets whoever is kicked quit first. -/
def crowdedShelf : List (Code Unit) :=
  [.hostListener (.observe fun
      | .chat player _ _ => .ask (.kick player "spam") fun _ => .finish ()
      | _ => .finish ()),
    .listener (.observe fun
      | .disconnect user => .ask (.disconnect user "again") fun _ => .panic .other
      | _ => .finish (.ok ())),
    .listener (.observe fun
      | .kick user _ => .ask (.quit user) fun _ => .finish (.ok ())
      | _ => .finish (.ok ()))]

def crowdedChanges : List Change :=
  [.newAdapter "memory" "CONSOLE" false, .newAdapter "memory" "CONSOLE" true, .attach 0,
    .listen "host" .chat 0, .attach 1, .subscribe 0 (some .disconnect) "main" .normal 1,
    .subscribe 1 (some .kick) "second" .normal 2]

def crowdedWorld : World Unit where
  state := crowdedChanges.foldl State.change (.initial .server ⟨.empty, [], "/", "/"⟩)
  memory := ()
  shelf := crowdedShelf

/-- Two players join, and the first one says something. -/
def crowdedProgram : Program Unit .main :=
  .ask (.join "Steve") fun steve => .ask (.join "Alex") fun _ =>
    .ask (.chat steve "hi") fun _ => .finish ()

/-- The player is disconnected from within the kick that its message brings about, and
again from within the quit that follows. Each bus is told once. -/
theorem crowd_is_accounted_for :
    crowdedWorld.state.Deserted ∧ (∀ code ∈ crowdedWorld.shelf, Code.Orderly code) ∧
      crowdedProgram.Orderly ∧
      let ran := crowdedWorld.run 4 crowdedProgram
      ran.1 = .ok () ∧ ran.2.state.host.players = [1] ∧
        ran.2.state.host.reason? 0 = some "Quit" ∧
        (∀ adapter ∈ [0, 1], ran.2.state.farewells adapter 0 = 1) ∧
        ∀ adapter ∈ [0, 1], ran.2.state.farewells adapter 1 = 0 := by
  have deserted : crowdedWorld.state.Deserted :=
    ⟨by decide +kernel, by decide +kernel, rfl⟩
  have code : ∀ code ∈ crowdedWorld.shelf, Code.Orderly code := by
    refine List.forall_mem_cons.mpr ⟨.of_roles trivial fun event => ?_, List.forall_mem_cons.mpr
      ⟨.of_roles (fun event => ?_) trivial, List.forall_mem_singleton.mpr
        (.of_roles (fun event => ?_) trivial)⟩⟩
    · cases event with
      | chat player message cancelled => exact ⟨trivial, fun _ => trivial⟩
      | _ => trivial
    · cases event with
      | disconnect user => exact ⟨trivial, fun _ => nofun⟩
      | _ => trivial
    · cases event with
      | kick user reason => exact ⟨trivial, fun _ => trivial⟩
      | _ => trivial
  have orderly : crowdedProgram.Orderly :=
    ⟨trivial, fun _ => ⟨trivial, fun _ => ⟨trivial, fun _ => trivial⟩⟩⟩
  obtain ⟨course, points, -, told⟩ := players_are_accounted_for 4 crowdedWorld crowdedProgram
    deserted code orderly
  have ended : (crowdedWorld.run 4 crowdedProgram).1 = .ok () := by
    decide +kernel
  have once : ∀ adapter ∈ [0, 1], crowdedWorld.state.heralds adapter = 1 := by
    decide +kernel
  refine ⟨deserted, code, orderly, ended, ?_, by decide +kernel, fun adapter member => ?_,
    fun adapter member => ?_⟩
  · rw [(points _ course).1]
    decide +kernel
  · rw [told ended adapter (once adapter member)]
    decide +kernel
  · rw [told ended adapter (once adapter member)]
    decide +kernel

end PluginBridge
