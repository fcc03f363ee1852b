import Mathlib.Algebra.Group.Pi.Basic
import Mathlib.Algebra.GroupWithZero.Nat
import PluginBridge.Proofs.Players.Join
import PluginBridge.Proofs.Players.Steps
import PluginBridge.Proofs.World.Firing

/-! How code behaves that works on players only. Whatever it does, and however deep it is
called, the host goes on step by step, no connect is told of players who were there before,
and once an operation returns, every quit that was announced in it has been told to the
buses. A native listener that returns in good order is never the reason why an operation
does not. -/
namespace PluginBridge
open Host (PlayerId)
variable {Memory α β : Type}

/-! ## What operations leave behind -/

namespace State
variable {state between later : State} {bound : Nat}

/-- How many of the host's listeners pass a quit on to the bus of an adapter. -/
def heralds (state : State) (adapter : AdapterId) : Nat :=
  (state.host.registry.listenersOf .quit).countP (·.hearer = .adapter adapter)

/-- The host has gone on step by step, and the players that buses were told have connected
are none of the first ones. -/
structure Passes (bound : Nat) (state later : State) : Prop where
  course : state.Course later
  greets : ∃ more, later.history = state.history ++ more ∧
    ∀ happening ∈ more, ∀ adapter player, happening.isConnectOf adapter player = true →
      bound ≤ player

/-- The buses were told of all quits that were announced, once by each of their listeners
at the host, and of so many more. -/
def Settles (owed : AdapterId → PlayerId → Nat) (state later : State) : Prop :=
  ∀ adapter player,
    later.farewells adapter player + state.heralds adapter * state.quits player =
      state.farewells adapter player + state.heralds adapter * later.quits player +
        owed adapter player

namespace Passes

theorem refl (bound : Nat) (state : State) : state.Passes bound state :=
  ⟨.refl, [], by simp, by simp⟩

theorem trans (first : state.Passes bound between) (second : between.Passes bound later) :
    state.Passes bound later := by
  obtain ⟨early, begun, old⟩ := first.greets
  obtain ⟨late, ended, new⟩ := second.greets
  refine ⟨first.course.trans second.course, early ++ late, ?_, ?_⟩
  · rw [ended, begun, List.append_assoc]
  · exact List.forall_mem_append.mpr ⟨old, new⟩

theorem mono {less : Nat} (passes : state.Passes bound later) (below : less ≤ bound) :
    state.Passes less later := by
  obtain ⟨more, begun, old⟩ := passes.greets
  exact ⟨passes.course, more, begun, fun happening member adapter player greets =>
    below.trans (old happening member adapter player greets)⟩

/-- A player who is leaving goes on leaving. -/
theorem leaving (passes : state.Passes bound later) {player : PlayerId} (below : player < bound)
    (leaving : Happening.Leaving state.history player) :
    Happening.Leaving later.history player := by
  obtain ⟨opening, closing, begun, quiet⟩ := leaving
  obtain ⟨more, history, old⟩ := passes.greets
  refine ⟨opening, closing ++ more, by rw [history, begun]; simp, ?_⟩
  refine List.forall_mem_append.mpr ⟨quiet, fun happening member adapter => ?_⟩
  by_contra greets
  exact absurd (old happening member adapter player (by simpa using greets)) (Nat.not_le.mpr below)

end Passes

theorem Onward.heralds (onward : state.Onward later) : later.heralds = state.heralds := by
  funext adapter
  rw [State.heralds, State.heralds, onward.registry]

namespace Settles
variable {owed more : AdapterId → PlayerId → Nat}

theorem refl (state : State) : state.Settles 0 state := fun _ _ => rfl

theorem trans (same : between.heralds = state.heralds) (first : state.Settles owed between)
    (second : between.Settles more later) : state.Settles (owed + more) later := by
  intro adapter player
  have early := first adapter player
  have late := second adapter player
  rw [same] at late
  simp only [Pi.add_apply]
  omega

end Settles

/-- An aside leaves nothing to be settled. -/
theorem aside_conduct {change : Change} (aside : change.Aside) (bound : Nat) (state : State) :
    state.Passes bound (state.change change) ∧ state.Settles 0 (state.change change) := by
  obtain ⟨-, -, -, more, history, quiet⟩ := aside_change aside state
  have greetsNobody : ∀ happening ∈ more, ∀ adapter player,
      happening.isConnectOf adapter player = true → bound ≤ player :=
    fun happening member adapter player greets =>
      absurd greets (by simp [(Happening.isAside_spec (quiet happening member)).2.1])
  refine ⟨⟨.single (.aside change aside), more, history, greetsNobody⟩, fun adapter player => ?_⟩
  have quits := countP_aside aside state fun happening aside =>
    (Happening.isAside_spec aside).1 player
  have farewells := countP_aside aside state fun happening aside =>
    (Happening.isAside_spec aside).2.2 adapter player
  simp only [State.quits, State.farewells, quits, farewells, Pi.zero_apply, Nat.add_zero]

/-- Nor do several asides. -/
theorem asides_conduct (reaches : state.ReachesBy Change.Aside later) (bound : Nat) :
    state.Passes bound later ∧ state.Settles 0 later := by
  obtain ⟨changes, aside, rfl⟩ := reaches
  induction changes generalizing state with
  | nil => exact ⟨.refl bound state, .refl state⟩
  | cons change rest ih =>
    obtain ⟨first, others⟩ := List.forall_mem_cons.mp aside
    obtain ⟨passes, settles⟩ := aside_conduct first bound state
    obtain ⟨more, settled⟩ := ih others
    exact ⟨passes.trans more, add_zero (0 : AdapterId → PlayerId → Nat) ▸
      settles.trans passes.course.onward.heralds settled⟩

theorem drop_conduct (player : PlayerId) (reason : String) (bound : Nat) (state : State) :
    state.Passes bound (state.change (.drop player reason)) ∧
      state.Settles 0 (state.change (.drop player reason)) :=
  ⟨⟨.single (.drop player reason), [], by simp [State.change, updateHost], by simp⟩,
    fun _ _ => rfl⟩

/-- A player enters, and no bus is told of anyone else for it. -/
theorem entered_conduct (name : String) (state : State) :
    state.Passes state.host.everyone.length (state.entered name) ∧
      state.Settles 0 (state.entered name) := by
  obtain ⟨more, history, -, -, quiet⟩ := entered_history state name
  refine ⟨⟨.single (.enter name), more, history, fun happening member =>
    (quiet happening member).2.2⟩, fun adapter player => ?_⟩
  have quits := countP_of_quiet history fun happening member => (quiet happening member).1 player
  have farewells := countP_of_quiet history fun happening member =>
    (quiet happening member).2.1 adapter player
  simp only [State.quits, State.farewells, quits, farewells, Pi.zero_apply, Nat.add_zero]

/-- The host's event can be handed on: a join to tell buses of is none of the first players',
and a quit is one that was announced. -/
structure Due (bound : Nat) (state : State) (event : HostEvent) : Prop where
  join : event.kind = .join → bound ≤ event.player
  quit : event.kind = .quit → event.player < bound ∧
    Happening.Leaving state.history event.player

theorem Due.passes {event : HostEvent} (due : state.Due bound event)
    (passes : state.Passes bound later) : later.Due bound event :=
  ⟨due.join, fun quit => ⟨(due.quit quit).1, passes.leaving (due.quit quit).1 (due.quit quit).2⟩⟩

theorem Due.congr {event other : HostEvent} (due : state.Due bound event)
    (kind : other.kind = event.kind) (player : other.player = event.player) :
    state.Due bound other :=
  ⟨fun join => player ▸ due.join (kind ▸ join), fun quit => player ▸ due.quit (kind ▸ quit)⟩

end State

/-- What handing an event to some hearers comes to beyond what is settled: a quit is told to
the buses of the adapters among them. -/
def HostEvent.owes (event : HostEvent) (hearers : List Host.Hearer) :
    AdapterId → PlayerId → Nat := fun adapter player =>
  if event.kind = .quit ∧ event.player = player then hearers.countP (· = .adapter adapter) else 0

namespace HostEvent

theorem owes_nil (event : HostEvent) : event.owes [] = 0 := by
  funext adapter player
  simp [owes]

theorem owes_cons (event : HostEvent) (hearer : Host.Hearer) (rest : List Host.Hearer) :
    event.owes (hearer :: rest) = event.owes [hearer] + event.owes rest := by
  funext adapter player
  simp only [owes, Pi.add_apply, List.countP_cons, List.countP_nil]
  split <;> omega

theorem owes_code (event : HostEvent) (code : CodeId) : event.owes [.code code] = 0 := by
  funext adapter player
  simp [owes]

theorem owes_congr {event other : HostEvent} (kind : other.kind = event.kind)
    (player : other.player = event.player) : other.owes = event.owes := by
  unfold owes
  rw [kind, player]

/-- Only quits are to be settled. -/
theorem owes_other {event : HostEvent} (other : event.kind ≠ .quit) (hearers : List Host.Hearer) :
    event.owes hearers = 0 := by
  funext adapter player
  simp [owes, other]

end HostEvent

namespace State
variable {state later : State} {bound : Nat}

/-- An adapter begins to tell its bus of an event of the host. -/
theorem told_conduct {event : HostEvent} (due : state.Due bound event) {kind : Host.Kind}
    {unified : Event} (unifies : event.unified kind = .ok unified) (adapter : AdapterId) :
    state.Passes bound (state.note (.dispatched adapter unified)) ∧
      state.Settles (event.owes [.adapter adapter])
        (state.note (.dispatched adapter unified)) := by
  have aside (other : event.kind ≠ .quit)
      (aside : (Happening.dispatched adapter unified).isAside = true) :
      state.Passes bound (state.note (.dispatched adapter unified)) ∧
        state.Settles (event.owes [.adapter adapter])
          (state.note (.dispatched adapter unified)) := by
    rw [HostEvent.owes_other other]
    exact aside_conduct (show (Change.note _).Aside from aside) bound state
  cases event with
  | join player =>
    obtain rfl := Except.ok.inj unifies
    rw [HostEvent.owes_other (by simp [HostEvent.kind])]
    have new : bound ≤ player := due.join rfl
    refine ⟨⟨.single (.greet ..), [_], rfl, ?_⟩, fun other known => ?_⟩
    · simpa [Happening.isConnectOf] using new
    · simp [farewells_note, quits_note, Happening.isDisconnectOf, Happening.isQuitOf]
  | quit player =>
    obtain rfl := Except.ok.inj unifies
    refine ⟨⟨.single (.farewell adapter (due.quit rfl).2), [_], rfl, ?_⟩, fun other known => ?_⟩
    · simp [Happening.isConnectOf]
    · have quits : (state.note (.dispatched adapter (.disconnect player))).quits known =
          state.quits known := by
        simp [quits_note, Happening.isQuitOf]
      have farewells :
          (state.note (.dispatched adapter (.disconnect player))).farewells other known =
            state.farewells other known +
              (HostEvent.quit player).owes [.adapter adapter] other known := by
        by_cases same : player = known <;>
          simp [farewells_note, Happening.isDisconnectOf, HostEvent.owes, HostEvent.kind,
            HostEvent.player, List.countP_singleton, same]
      rw [quits, farewells, Nat.add_right_comm]
  | chat player message cancelled =>
    obtain rfl := Except.ok.inj unifies
    exact aside (by simp [HostEvent.kind]) rfl
  | kick player reason =>
    cases kind with
    | proxy => cases unifies
    | server =>
      obtain rfl := Except.ok.inj unifies
      exact aside (by simp [HostEvent.kind]) rfl
  | switch player previous server =>
    cases kind with
    | server => cases unifies
    | proxy =>
      obtain rfl := Except.ok.inj unifies
      exact aside (by simp [HostEvent.kind]) rfl

/-- A quit that is announced and told to all who hear it is settled. -/
theorem settles_left {player : PlayerId}
    (told : (state.left player).Settles ((HostEvent.quit player).owes
      ((state.host.registry.listenersOf .quit).map (·.hearer))) later) :
    state.Settles 0 later := by
  intro adapter other
  have settled := told adapter other
  have heralds : (state.left player).heralds adapter = state.heralds adapter := rfl
  have farewells : (state.left player).farewells adapter other = state.farewells adapter other :=
    (farewells_note ..).trans rfl
  have quits : (state.left player).quits other =
      state.quits other + if player = other then 1 else 0 := by
    rw [left, quits_note]
    simp only [Happening.isQuitOf, decide_eq_true_eq]
    rfl
  have owed : (HostEvent.quit player).owes
      ((state.host.registry.listenersOf .quit).map (·.hearer)) adapter other =
        if player = other then state.heralds adapter else 0 := by
    simp only [HostEvent.owes, HostEvent.kind, HostEvent.player, true_and, List.countP_map]
    rfl
  rw [heralds, farewells, quits, owed] at settled
  simp only [Pi.zero_apply]
  split at settled
  · rw [Nat.mul_add, Nat.mul_one] at settled
    omega
  · omega

end State

/-! ## Code that works on players only -/

/-- Requests that work on players, or look, log, talk or listen on a bus. -/
def Request.OfPlayers : Request → Prop
  | .look | .log _ | .join _ | .chat .. | .quit _ | .disconnect .. | .kick .. | .drop .. => True
  | .switch .. | .connect .. | .setPermission .. | .tell .. | .obey _ => True
  | .addServer .. | .sendData .. => True
  | .subscribe .. | .unsubscribe .. | .unsubscribeOwner .. => True
  | _ => False

/-- The roles in which code is called while players are worked on. -/
def Role.listens : Role → Bool
  | .hear | .hearHost => true
  | _ => false

/-- Programs that ask for such things only, define no other listeners, and return in good
order if they listen to the host. -/
def Program.Orderly : {role : Role} → Program Memory role → Prop
  | _, .finish _ => True
  | role, .panic _ => role ≠ .hearHost
  | _, .recollect next => ∀ memory, (next memory).Orderly
  | _, .remember _ next => next.Orderly
  | _, .observe next => ∀ subject, (next subject).Orderly
  | _, .edit _ next => ∀ result, (next result).Orderly
  | _, .define code next =>
    (∀ task input, task.listens = true → (code task input).Orderly) ∧ ∀ id, (next id).Orderly
  | _, .ask request next => request.OfPlayers ∧ ∀ reply, (next reply).Orderly

def Code.Orderly (code : Code Memory) : Prop :=
  ∀ role input, role.listens = true → (code role input).Orderly

/-- All listeners that have been defined are orderly, and the host's books are right. -/
structure World.Orderly (world : World Memory) : Prop where
  code : ∀ code ∈ world.shelf, Code.Orderly code
  books : world.state.Accounted

theorem World.Orderly.note {world : World Memory} (orderly : world.Orderly) (happening : Happening)
    (other : ∀ player, happening.isQuitOf player = false) :
    (world.alter (·.note happening)).Orderly :=
  ⟨orderly.code, orderly.books.note _ other⟩

/-- What an action comes to that was begun in a world: it is not stopped by a panic, and if
it returns, what was announced is settled up to what is owed. -/
structure State.Conducts (state : State) (bound : Nat)
    (owed : AdapterId → PlayerId → Nat) (ran : Except Stop α × World Memory) : Prop where
  code : ∀ code ∈ ran.2.shelf, Code.Orderly code
  passes : state.Passes bound ran.2.state
  calm : ∀ payload, ran.1 ≠ .error (.panic payload)
  settles : ∀ answer, ran.1 = .ok answer → state.Settles owed ran.2.state

namespace State.Conducts
variable {state : State} {start : World Memory} {bound : Nat}
  {owed more : AdapterId → PlayerId → Nat} {ran : Except Stop α × World Memory}

theorem orderly (conducts : state.Conducts bound owed ran) (books : state.Accounted) :
    ran.2.Orderly :=
  ⟨conducts.code, conducts.passes.course.accounted books⟩

theorem mono (conducts : state.Conducts bound owed ran) {less : Nat} (below : less ≤ bound) :
    state.Conducts less owed ran :=
  { conducts with passes := conducts.passes.mono below }

/-- An action that goes on where another one has returned. -/
theorem bind {action : Action Memory α} {next : α → Action Memory β}
    (first : state.Conducts bound owed (action.on start))
    (rest : ∀ answer between, action.on start = (.ok answer, between) →
      state.Conducts bound owed ((.ok answer, between) : Except Stop α × World Memory) →
      between.state.Conducts bound more ((next answer).on between)) :
    state.Conducts bound (owed + more) ((action >>= next).on start) := by
  rw [Action.on_bind]
  generalize ran : action.on start = result at first rest
  rcases result with ⟨stop | answer, between⟩
  · exact ⟨first.code, first.passes, fun payload same => first.calm payload
      (congrArg _ (Except.error.inj same)), fun answer same => nomatch same⟩
  · have second := rest answer between rfl first
    exact ⟨second.code, first.passes.trans second.passes, second.calm, fun reply same =>
      .trans first.passes.course.onward.heralds (first.settles answer rfl)
        (second.settles reply same)⟩

/-- What goes on in an action that settles what it announces itself. -/
theorem andThen {action : Action Memory α} {next : α → Action Memory β}
    (first : state.Conducts bound owed (action.on start))
    (rest : ∀ answer between, action.on start = (.ok answer, between) →
      state.Conducts bound owed ((.ok answer, between) : Except Stop α × World Memory) →
      between.state.Conducts bound 0 ((next answer).on between)) :
    state.Conducts bound owed ((action >>= next).on start) :=
  add_zero owed ▸ first.bind rest

/-- What went before such an action belongs to it. -/
theorem after {between : State} (passes : state.Passes bound between)
    (settles : state.Settles owed between)
    (conducts : between.Conducts bound 0 ran) : state.Conducts bound owed ran :=
  ⟨conducts.code, passes.trans conducts.passes, conducts.calm, fun answer returned =>
    add_zero owed ▸ settles.trans passes.course.onward.heralds (conducts.settles answer returned)⟩

end State.Conducts

/-- An action that conducts itself so in every orderly world, and owes nothing. -/
def Action.Orderly (action : Action Memory α) : Prop :=
  ∀ world : World Memory, world.Orderly →
    world.state.Conducts world.state.host.everyone.length 0 (action.on world)

/-- Calling listeners conducts itself so. Listeners of the host return, and leave them the
event of the player that it was. -/
structure Caller.Orderly (call : Caller Memory) : Prop where
  conducts (code : CodeId) (role : Role) (input : role.Input) (subject : role.Subject)
    (world : World Memory) (listens : role.listens = true) (orderly : world.Orderly) :
    let ran := (call code role input subject).run world
    world.state.Conducts world.state.host.everyone.length 0 (ran.1.caught, ran.2)
  returns (code : CodeId) (event : HostEvent) (world : World Memory) (orderly : world.Orderly)
    (payload : Payload) :
    ((call code .hearHost () event).run world).1.ending ≠ .error (.panic payload)
  subject (code : CodeId) (event : HostEvent) (world : World Memory) :
    let left := ((call code .hearHost () event).run world).1.subject
    left.kind = event.kind ∧ left.player = event.player

/-- An action of any kind goes on with one that conducts itself so. -/
theorem State.Conducts.next {state : State} {start : World Memory} {bound : Nat}
    {owed : AdapterId → PlayerId → Nat} {action : Action Memory α} {next : α → Action Memory β}
    (first : state.Conducts bound owed (action.on start)) (books : state.Accounted)
    (below : bound ≤ state.host.everyone.length) (rest : ∀ answer, (next answer).Orderly) :
    state.Conducts bound owed ((action >>= next).on start) :=
  first.andThen fun answer between _ conducts =>
    (rest answer between (conducts.orderly books)).mono
      (below.trans conducts.passes.course.onward.joined)

namespace Action
open Host (ServerId Listener)

theorem Orderly.bind {action : Action Memory α} {next : α → Action Memory β}
    (first : action.Orderly) (rest : ∀ answer, (next answer).Orderly) :
    (action >>= next).Orderly :=
  fun world orderly => (first world orderly).next orderly.books le_rfl rest

theorem orderly_pure (answer : α) : (pure answer : Action Memory α).Orderly :=
  fun _ orderly => ⟨orderly.code, .refl .., nofun, fun _ _ => .refl _⟩

theorem orderly_see (view : State → α) : (see view : Action Memory α).Orderly :=
  fun _ orderly => ⟨orderly.code, .refl .., nofun, fun _ _ => .refl _⟩

theorem orderly_answer {change : State → State × α}
    (asides : ∀ state : State, state.ReachesBy Change.Aside (change state).1) :
    (answer change : Action Memory α).Orderly := by
  intro world orderly
  obtain ⟨passes, settles⟩ := State.asides_conduct (asides world.state) _
  exact ⟨orderly.code, passes, nofun, fun _ _ => settles⟩

theorem orderly_update {change : State → State}
    (asides : ∀ state : State, state.ReachesBy Change.Aside (change state)) :
    (update change : Action Memory Unit).Orderly := by
  intro world orderly
  obtain ⟨passes, settles⟩ := State.asides_conduct (asides world.state) _
  exact ⟨orderly.code, passes, nofun, fun _ _ => settles⟩

theorem orderly_log (record : Log.Record) : (log record : Action Memory Unit).Orderly :=
  orderly_update fun state => .one state (.log record) trivial

theorem orderly_tell (user : ChatUser) (message : String) :
    (tell user message : Action Memory Unit).Orderly :=
  orderly_update fun state => .one state (.tell user message) trivial

theorem orderly_drop (player : PlayerId) (reason : String) :
    (drop player reason : Action Memory Unit).Orderly := by
  intro world orderly
  obtain ⟨passes, settles⟩ := State.drop_conduct player reason
    world.state.host.everyone.length world.state
  exact ⟨orderly.code, passes, nofun, fun _ _ => settles⟩

section
variable {call : Caller Memory} (steady : Caller.Orderly call)
include steady

theorem orderly_attempt (code : CodeId) {role : Role} (listens : role.listens = true)
    (input : role.Input) (subject : role.Subject) :
    (attempt call code role input subject).Orderly := by
  intro world orderly
  obtain ⟨passes, settles⟩ := State.aside_conduct
    (show (Change.note (.called code role input)).Aside from rfl)
    world.state.host.everyone.length world.state
  rw [on_attempt_caught]
  exact .after passes settles (steady.conducts code role input subject
    (world.alter (·.note (.called code role input))) listens (orderly.note _ fun _ => rfl))

/-- A listener of the host that is called returns, and leaves the event it was called for. -/
theorem orderly_demand (code : CodeId) (event : HostEvent) :
    (demand call code .hearHost () event).Orderly := by
  intro world orderly
  have attempted := orderly_attempt steady code (show Role.hearHost.listens = true from rfl)
    () event world orderly
  refine attempted.andThen fun ended between ran conducts => ?_
  rcases ended with ⟨payload | _, left⟩
  · rw [on_attempt_caught] at ran
    obtain ⟨panicked, -⟩ := Called.caught_ok (congrArg Prod.fst ran)
    exact absurd panicked (steady.returns code event _ (orderly.note _ fun _ => rfl) payload)
  · exact (orderly_pure _ between (conducts.orderly orderly.books)).mono
      conducts.passes.course.onward.joined

theorem orderly_deliverTo (listener : Subscription) (event : Event) :
    (deliverTo call listener event).Orderly := by
  refine (orderly_attempt steady _ rfl _ _).bind fun ended => ?_
  rcases ended with ⟨payload | message | _, edited⟩
  · exact (orderly_log _).bind fun _ => orderly_pure edited
  · exact (orderly_log _).bind fun _ => orderly_pure edited
  · exact orderly_pure edited

theorem orderly_deliver (listeners : List Subscription) (event : Event) :
    (deliver call listeners event).Orderly := by
  induction listeners generalizing event with
  | nil => exact orderly_pure event
  | cons listener rest ih => exact (orderly_deliverTo steady listener event).bind ih

/-- What an adapter does once it has begun to tell its bus of an event. -/
theorem conducts_dispatch {world : World Memory} (orderly : world.Orderly) (adapter : AdapterId)
    (event : Event) :
    (world.state.note (.dispatched adapter event)).Conducts
      world.state.host.everyone.length 0 ((dispatch call adapter event).on world) :=
  orderly_deliver steady _ event (world.alter (·.note (.dispatched adapter event)))
    (orderly.note _ fun _ => rfl)

theorem conducts_bridge {world : World Memory} (orderly : world.Orderly) (adapter : AdapterId)
    (source : String) (event : Event) :
    (world.state.note (.dispatched adapter event)).Conducts
      world.state.host.everyone.length 0 ((bridge call adapter source (.ok event)).on world) := by
  have noted : (world.alter (·.note (.dispatched adapter event))).Orderly :=
    orderly.note _ fun _ => rfl
  refine (conducts_dispatch steady orderly adapter event).next noted.books le_rfl fun outcome =>
    (orderly_see _).bind fun known => ?_
  split
  · exact (orderly_log _).bind fun _ => orderly_pure _
  · exact orderly_pure _

omit steady in
theorem orderly_unbridged (adapter : AdapterId) (source : String) (failure : UnifyFailure) :
    (bridge call adapter source (.error failure)).Orderly :=
  (orderly_see _).bind fun _ => (orderly_log _).bind fun _ => orderly_pure none

section
variable {turnAway : PlayerId → String → Action Memory Unit}
  (turning : ∀ player reason, (turnAway player reason).Orderly)
include turning

omit steady in
/-- What an adapter does once its bus has heard of an event. -/
theorem orderly_passed (event : HostEvent) (outcome : Option Event) :
    (match outcome with
      | none => pure event
      | some outcome => do
        match outcome.refusal? with
        | some (player, reason) => turnAway player reason
        | none => pure ()
        pure (event.reconciled outcome) : Action Memory HostEvent).Orderly := by
  split
  · exact orderly_pure event
  · split
    · exact (turning _ _).bind fun _ => orderly_pure _
    · exact (orderly_pure ()).bind fun _ => orderly_pure _

theorem conducts_pass_told {world : World Memory} (orderly : world.Orderly) (adapter : AdapterId)
    {event : HostEvent} {unified : Event}
    (unifies : event.unified world.state.host.kind = .ok unified) :
    (world.state.note (.dispatched adapter unified)).Conducts
      world.state.host.everyone.length 0 ((pass call turnAway adapter event).on world) := by
  have noted : (world.alter (·.note (.dispatched adapter unified))).Orderly :=
    orderly.note _ fun _ => rfl
  unfold pass
  rw [on_bind_ok (on_see ..), unifies]
  exact (conducts_bridge steady orderly adapter _ unified).next noted.books le_rfl
    (orderly_passed turning event)

/-- An adapter's turn at an event of the host. -/
theorem conducts_pass {world : World Memory} (orderly : world.Orderly) (adapter : AdapterId)
    {event : HostEvent} {bound : Nat} (below : bound ≤ world.state.host.everyone.length)
    (due : world.state.Due bound event) :
    world.state.Conducts bound (event.owes [.adapter adapter])
      ((pass call turnAway adapter event).on world) := by
  cases unifies : event.unified world.state.host.kind with
  | ok unified =>
    obtain ⟨passes, settles⟩ := State.told_conduct due unifies adapter
    exact .after passes settles
      ((conducts_pass_told steady turning orderly adapter unifies).mono below)
  | error failure =>
    have other : event.kind ≠ .quit := by
      cases event with
      | quit player => cases unifies
      | _ => simp [HostEvent.kind]
    rw [HostEvent.owes_other other]
    unfold pass
    rw [on_bind_ok (on_see ..), unifies]
    exact (((orderly_unbridged adapter _ failure).bind (orderly_passed turning event)) world
      orderly).mono below

omit steady turning in
/-- An adapter hands the event back as the event of the same player that it was. -/
theorem pass_answer {world after : World Memory} {adapter : AdapterId} {event answer : HostEvent}
    (ran : (pass call turnAway adapter event).on world = (.ok answer, after)) :
    answer.kind = event.kind ∧ answer.player = event.player := by
  have edited := pass_edited _ _ ran
  exact ⟨edited.kind, edited.player⟩

omit turning in
theorem hand_answer {world after : World Memory} {listener : Listener} {event answer : HostEvent}
    (ran : (hand call turnAway listener event).on world = (.ok answer, after)) :
    answer.kind = event.kind ∧ answer.player = event.player := by
  unfold hand at ran
  split at ran
  · next code hearer =>
    obtain ⟨⟨result, left⟩, between, demanded, ran⟩ := ok_of_bind ran
    obtain ⟨⟨ended, subject⟩, called, attempted, demanded⟩ := ok_of_bind demanded
    rw [on_attempt_caught] at attempted
    obtain ⟨-, same⟩ := Called.caught_ok (congrArg Prod.fst attempted)
    rcases ended with payload | result
    · cases demanded
    · obtain rfl : subject = answer := by
        cases demanded
        exact Except.ok.inj (congrArg Prod.fst ran)
      exact same ▸ steady.subject code event _
  · exact pass_answer ran

/-- One listener's turn at an event of the host. -/
theorem conducts_hand {world : World Memory} (orderly : world.Orderly) (listener : Listener)
    {event : HostEvent} {bound : Nat} (below : bound ≤ world.state.host.everyone.length)
    (due : world.state.Due bound event) :
    world.state.Conducts bound (event.owes [listener.hearer])
      ((hand call turnAway listener event).on world) := by
  unfold hand
  split
  · next code hearer =>
    rw [hearer, HostEvent.owes_code]
    have demanded := (orderly_demand steady code event).bind fun ended => orderly_pure ended.2
    exact (demanded world orderly).mono below
  · next adapter hearer =>
    rw [hearer]
    exact conducts_pass steady turning orderly adapter below due

/-- The turns of all listeners of the host. -/
theorem conducts_handAll (listeners : List Listener) {world : World Memory}
    (orderly : world.Orderly) {event : HostEvent} {bound : Nat}
    (below : bound ≤ world.state.host.everyone.length) (due : world.state.Due bound event) :
    world.state.Conducts bound (event.owes (listeners.map (·.hearer)))
      ((handAll call turnAway listeners event).on world) := by
  induction listeners generalizing world event with
  | nil =>
    rw [List.map_nil, HostEvent.owes_nil]
    exact (orderly_pure event world orderly).mono below
  | cons listener rest ih =>
    rw [List.map_cons, HostEvent.owes_cons]
    refine (conducts_hand steady turning orderly listener below due).bind
      fun answer between ran conducts => ?_
    obtain ⟨kind, player⟩ := hand_answer steady ran
    rw [← HostEvent.owes_congr kind player]
    exact ih (conducts.orderly orderly.books)
      (below.trans conducts.passes.course.onward.joined)
      ((due.passes conducts.passes).congr kind player)

end

end

end Action

end PluginBridge
