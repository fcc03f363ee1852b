import PluginBridge.Proofs.Players.Accounts

/-! Who is told of a player first. A bus is told that a player has gone only after the host
has fired the player's join and announced its quit. But the quit may be announced while the
join is still on its way: then adapters whose turn at the join has not come yet tell their
buses of the quit first. -/
namespace PluginBridge
open Host (PlayerId)
variable {Memory : Type}

namespace State
variable {state later : State}

/-- By a history, the host has fired a player's join, and the adapter that is first in line
has told its bus of it. -/
structure Greeted (state : State) (history : List Happening) (player : PlayerId) : Prop where
  joined : .fired (.join player) ∈ history
  first : ∀ adapter, state.firstToldOfJoins? = some adapter →
    history.any (Happening.isConnectOf adapter player) = true

theorem Greeted.mono {history more : List Happening} {player : PlayerId}
    (greeted : state.Greeted history player)
    (same : later.firstToldOfJoins? = state.firstToldOfJoins?) :
    later.Greeted (history ++ more) player where
  joined := List.mem_append_left _ greeted.joined
  first adapter inLine := by
    rw [List.any_append, greeted.first adapter (same ▸ inLine), Bool.true_or]

/-- What has come in order so far: whoever has joined was greeted, quits are announced of
those who were greeted before, and buses are told of those whose quit was announced. -/
structure Chronicled (state : State) : Prop where
  greeted : ∀ player < state.host.everyone.length, state.Greeted state.history player
  announced : ∀ player opening closing,
    state.history = opening ++ .fired (.quit player) :: closing → state.Greeted opening player
  told : ∀ adapter player before rest,
    state.history = before ++ .dispatched adapter (.disconnect player) :: rest →
      Happening.Leaving before player

end State

/-- Something in a list that goes on is where it was, or in what has been added. -/
theorem split_of_append {α : Type} {list more before rest : List α} {item : α}
    (split : list ++ more = before ++ item :: rest) :
    (∃ others, list = before ++ item :: others) ∨
      ∃ front, before = list ++ front ∧ more = front ++ item :: rest := by
  obtain ⟨front, same, added⟩ | ⟨front, same, added⟩ := List.append_eq_append_iff.mp split
  · exact .inr ⟨front, same, added⟩
  · cases front with
    | nil => exact .inr ⟨[], by simpa using same.symm, by simpa using added.symm⟩
    | cons head others =>
      obtain ⟨rfl, rfl⟩ := List.cons.inj added
      exact .inl ⟨others, same⟩

namespace State
variable {state later : State}

namespace Chronicled

theorem extend (chronicled : state.Chronicled) {more : List Happening}
    (history : later.history = state.history ++ more)
    (same : later.firstToldOfJoins? = state.firstToldOfJoins?)
    (newcomers : ∀ player < later.host.everyone.length,
      player < state.host.everyone.length ∨ later.Greeted later.history player)
    (quits : ∀ player, .fired (.quit player) ∈ more → state.Greeted state.history player)
    (farewells : ∀ adapter player front rest,
      more = front ++ .dispatched adapter (.disconnect player) :: rest →
        Happening.Leaving (state.history ++ front) player) : later.Chronicled where
  greeted player inside := by
    obtain known | greeted := newcomers player inside
    · rw [history]
      exact (chronicled.greeted player known).mono same
    · exact greeted
  announced player opening closing split := by
    rw [history] at split
    obtain ⟨others, old⟩ | ⟨front, rfl, new⟩ := split_of_append split
    · exact List.append_nil opening ▸ (chronicled.announced player opening others old).mono same
    · exact (quits player (by simp [new])).mono same
  told adapter player before rest split := by
    rw [history] at split
    obtain ⟨others, old⟩ | ⟨front, rfl, new⟩ := split_of_append split
    · exact chronicled.told adapter player before others old
    · exact farewells adapter player front rest new

/-- Nothing that tells of someone who goes changes the order. -/
theorem quiet (chronicled : state.Chronicled) {more : List Happening}
    (history : later.history = state.history ++ more)
    (same : later.firstToldOfJoins? = state.firstToldOfJoins?)
    (newcomers : ∀ player < later.host.everyone.length,
      player < state.host.everyone.length ∨ later.Greeted later.history player)
    (quiet : ∀ happening ∈ more, (∀ player, happening.isQuitOf player = false) ∧
      ∀ adapter player, happening.isDisconnectOf adapter player = false) : later.Chronicled := by
  refine chronicled.extend history same newcomers (fun player member => ?_)
    fun adapter player front rest split => ?_
  · have told := (quiet _ member).1 player
    simp [Happening.isQuitOf] at told
  · have member : .dispatched adapter (.disconnect player) ∈ more := by simp [split]
    have told := (quiet _ member).2 adapter player
    simp [Happening.isDisconnectOf] at told

end Chronicled

theorem Step.chronicled (step : state.Step later) (roll : state.host.Roll)
    (chronicled : state.Chronicled) : later.Chronicled := by
  have same : later.firstToldOfJoins? = state.firstToldOfJoins? := by
    rw [firstToldOfJoins?, firstToldOfJoins?, step.onward.registry]
  cases step with
  | aside change aside =>
    obtain ⟨-, reasons, -, more, history, quiet⟩ := aside_change aside state
    refine chronicled.quiet history same (fun player inside => .inl ?_) fun happening member =>
      ⟨(Happening.isAside_spec (quiet happening member)).1,
        (Happening.isAside_spec (quiet happening member)).2.2⟩
    rwa [← Host.length_reasons, ← reasons, Host.length_reasons]
  | drop player reason =>
    refine chronicled.quiet (List.append_nil _).symm same (fun other inside => .inl ?_) nofun
    simpa [change, updateHost, Host.updatePlayer] using inside
  | enter name =>
    obtain ⟨more, history, joined, first, quiet⟩ := entered_history state name
    refine chronicled.quiet history same (fun player inside => ?_) fun happening member =>
      ⟨(quiet happening member).1, (quiet happening member).2.1⟩
    rw [host_entered, Host.addPlayer, List.length_append, List.length_singleton] at inside
    refine (Nat.lt_succ_iff_lt_or_eq.mp inside).imp_right fun newcomer => ?_
    subst newcomer
    refine ⟨history ▸ List.mem_append_right _ joined, fun adapter inLine => ?_⟩
    rw [history, List.any_append, first adapter (same ▸ inLine), Bool.or_true]
  | leave listed lost =>
    refine chronicled.extend rfl same (fun other inside => .inl ?_) (fun other member => ?_)
      fun adapter other front rest split => ?_
    · simpa [left, note, change, updateHost, Host.removePlayer, Host.updatePlayer] using inside
    · obtain rfl : other = _ := by simpa using member
      exact chronicled.greeted other (roll.joined other listed)
    · have added := congrArg (Happening.dispatched adapter (.disconnect other) ∈ ·) split
      simp at added
  | greet adapter details =>
    exact chronicled.quiet rfl same (fun player inside => .inl inside)
      (List.forall_mem_singleton.mpr ⟨fun _ => rfl, fun _ _ => rfl⟩)
  | farewell adapter leaving =>
    refine chronicled.extend rfl same (fun other inside => .inl inside) (fun other member => ?_)
      fun adapter other front rest split => ?_
    · simp at member
    · cases front with
      | nil =>
        cases split
        rwa [List.append_nil]
      | cons head others => simp at split

theorem Course.chronicled (course : state.Course later) (accounted : state.Accounted)
    (chronicled : state.Chronicled) : later.Chronicled := by
  induction course with
  | refl => exact chronicled
  | tail before step ih => exact step.chronicled (Course.accounted before accounted).roll ih

theorem Deserted.chronicled (deserted : state.Deserted) : state.Chronicled := by
  have silent {before rest : List Happening} {happening : Happening}
      (split : state.history = before ++ happening :: rest) : happening.isNews ≠ true := by
    intro news
    have among : happening ∈ state.news := List.mem_filter.mpr ⟨by simp [split], news⟩
    rw [deserted.quiet] at among
    cases among
  refine ⟨fun player inside => ?_, fun player opening closing split => ?_,
    fun adapter player before rest split => ?_⟩
  · simp [deserted.nobody] at inside
  · exact absurd rfl (silent split)
  · exact absurd rfl (silent split)

end State

/-- In a run on a host that nobody has joined before, of a program that works on players,
with listeners that do so too: when a bus is told that a player has gone, the host has fired
the player's join before, and then announced its quit. The bus has been told before that
the player connected exactly if it had been by the time of that announcement, and this is
always so for the adapter that is first in line for joins. -/
theorem connect_precedes_disconnect_iff (depth : Nat) (world : World Memory)
    (program : Program Memory .main) (deserted : world.state.Deserted)
    (code : ∀ code ∈ world.shelf, Code.Orderly code) (orderly : program.Orderly)
    (adapter : AdapterId) (player : PlayerId) (before rest : List Happening)
    (told : (world.run depth program).2.state.history =
      before ++ .dispatched adapter (.disconnect player) :: rest) :
    ∃ opening closing, before = opening ++ .fired (.quit player) :: closing ∧
      .fired (.join player) ∈ opening ∧
      (before.any (Happening.isConnectOf adapter player) = true ↔
        opening.any (Happening.isConnectOf adapter player) = true) ∧
      (world.state.firstToldOfJoins? = some adapter →
        before.any (Happening.isConnectOf adapter player) = true) := by
  have course : world.state.Course (world.run depth program).2.state :=
    (orderly.run (callWithin_orderly depth) () ⟨code, deserted.accounted⟩).1.passes.course
  have chronicled := course.chronicled deserted.accounted deserted.chronicled
  have same : (world.run depth program).2.state.firstToldOfJoins? =
      world.state.firstToldOfJoins? := by
    unfold State.firstToldOfJoins?
    rw [(State.Course.onward course).registry]
  obtain ⟨opening, closing, rfl, quiet⟩ := chronicled.told adapter player before rest told
  have greeted := chronicled.announced player opening
    (closing ++ .dispatched adapter (.disconnect player) :: rest) (by simp [told])
  have untold : closing.any (Happening.isConnectOf adapter player) = false :=
    List.any_eq_false.mpr fun happening member => by simp [quiet happening member adapter]
  have since : (opening ++ .fired (.quit player) :: closing).any
      (Happening.isConnectOf adapter player) =
        opening.any (Happening.isConnectOf adapter player) := by
    simp [untold, Happening.isConnectOf]
  rw [since]
  exact ⟨opening, closing, rfl, greeted.joined, .rfl, fun inLine =>
    greeted.first adapter (same.trans inLine)⟩

/-- Where a bus is told that a player has gone. -/
theorem Happening.split_of_isDisconnectOf {history : List Happening} {adapter : AdapterId}
    {player : PlayerId} (now : Nat)
    (told : history[now]?.any (isDisconnectOf adapter player) = true) :
    history = history.take now ++
      .dispatched adapter (.disconnect player) :: history.drop (now + 1) := by
  obtain ⟨happening, there, told⟩ := (Option.any_eq_true ..).mp told
  obtain ⟨inside, rfl⟩ := List.getElem?_eq_some_iff.mp there
  have same : history[now] = .dispatched adapter (.disconnect player) := by
    unfold isDisconnectOf at told
    split at told
    · next other user same =>
      obtain ⟨rfl, rfl⟩ : other = adapter ∧ user = player := by simpa using told
      exact same
    · cases told
  rw [← same, List.getElem_cons_drop, List.take_append_drop]

/-- A listener on a bus that refuses everyone who connects. -/
def gateShelf : List (Code Unit) :=
  [.listener (.edit (.cancelWith "full") fun _ => .finish (.ok ()))]

/-- The first adapter's bus has this listener, the second one's has none. -/
def gateChanges : List Change :=
  [.newAdapter "memory" "CONSOLE" false, .newAdapter "memory" "CONSOLE" false, .attach 0,
    .attach 1, .subscribe 0 (some .connect) "gate" .normal 0]

def gateWorld : World Unit where
  state := gateChanges.foldl State.change (.initial .server ⟨.empty, [], "/", "/"⟩)
  memory := ()
  shelf := gateShelf

def gateProgram : Program Unit .main :=
  .ask (.join "Steve") fun _ => .finish ()

/-- The adapter that is first in line tells its bus that the player has gone, after it has
told it that the player connected. -/
theorem first_in_line_greets_before_quit :
    gateWorld.state.Deserted ∧ (∀ code ∈ gateWorld.shelf, Code.Orderly code) ∧
      gateProgram.Orderly ∧
      ∃ before rest, (gateWorld.run 3 gateProgram).2.state.history =
          before ++ .dispatched 0 (.disconnect 0) :: rest ∧
        before.any (Happening.isConnectOf 0 0) = true := by
  have deserted : gateWorld.state.Deserted :=
    ⟨by decide +kernel, by decide +kernel, rfl⟩
  have code : ∀ code ∈ gateWorld.shelf, Code.Orderly code :=
    List.forall_mem_singleton.mpr (.of_roles (fun _ => trivial) trivial)
  have orderly : gateProgram.Orderly := ⟨trivial, fun _ => trivial⟩
  have told : (gateWorld.run 3 gateProgram).2.state.history[4]?.any
      (Happening.isDisconnectOf 0 0) = true := by
    decide +kernel
  have split := Happening.split_of_isDisconnectOf 4 told
  obtain ⟨opening, closing, -, -, -, first⟩ := connect_precedes_disconnect_iff 3 gateWorld
    gateProgram deserted code orderly 0 0 _ _ split
  exact ⟨deserted, code, orderly, _, _, split, first (by decide +kernel)⟩

/-- Both adapters hear of joins from before this one until after it. The second one tells
its bus that the player has gone before it has told it that the player connected. -/
theorem second_in_line_tells_of_quit_first :
    (∀ adapter ∈ [0, 1], ∀ state ∈ [gateWorld.state, (gateWorld.run 3 gateProgram).2.state],
      (state.host.registry.listenersOf .join).any (·.hearer = .adapter adapter) = true) ∧
    ¬ ∀ adapter ∈ [0, 1], ∀ before rest, (gateWorld.run 3 gateProgram).2.state.history =
        before ++ .dispatched adapter (.disconnect 0) :: rest →
      before.any (Happening.isConnectOf adapter 0) = true := by
  refine ⟨by decide +kernel, fun always => ?_⟩
  have greeted := always 1 (by decide) _ _ (Happening.split_of_isDisconnectOf 5 (by decide +kernel))
  revert greeted
  decide +kernel

end PluginBridge
