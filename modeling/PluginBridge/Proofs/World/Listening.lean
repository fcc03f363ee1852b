import PluginBridge.Proofs.World.Runs

/-! Code that only listens: it reads and edits what it was called about, keeps things in
memory and ends as it likes, by a panic if it must, but asks the world for nothing. All
that passes into such a call is its subject and the memory, so what a delivery comes to
can be told from the listeners one by one, each run by itself. -/
namespace PluginBridge
variable {Memory : Type} {role : Role}

/-- A program that asks for nothing and defines no code. -/
def Program.Listens : {role : Role} → Program Memory role → Prop
  | _, .finish _ | _, .panic _ => True
  | _, .recollect next => ∀ memory, (next memory).Listens
  | _, .remember _ next => next.Listens
  | _, .observe next => ∀ subject, (next subject).Listens
  | _, .edit _ next => ∀ result, (next result).Listens
  | _, .define .. | _, .ask .. => False

/-- How such a program ends and what it leaves are settled by its subject and the
memory, whatever world it runs in, and it changes nothing of the world but the memory. -/
theorem Program.Listens.run {program : Program Memory role} (listens : program.Listens)
    (subject : role.Subject) (memory : Memory) :
    ∃ (ending : Except Payload role.Result) (left : role.Subject) (kept : Memory),
      ∀ (call : Caller Memory) (world : World Memory), world.memory = memory →
        (program.run call subject).run world =
          (⟨ending.mapError Stop.panic, left⟩, { world with memory := kept }) := by
  induction program generalizing memory with
  | finish result => exact ⟨.ok result, subject, memory, fun call world same => same ▸ rfl⟩
  | panic payload => exact ⟨.error payload, subject, memory, fun call world same => same ▸ rfl⟩
  | recollect next ih =>
    obtain ⟨ending, left, kept, ran⟩ := ih memory (listens memory) subject memory
    exact ⟨ending, left, kept, fun call world same => by subst same; exact ran call world rfl⟩
  | remember change next ih =>
    obtain ⟨ending, left, kept, ran⟩ := ih listens subject (change memory)
    refine ⟨ending, left, kept, fun call world same => ?_⟩
    exact ran call { world with memory := change world.memory } (congrArg change same)
  | observe next ih => exact ih subject (listens subject) subject memory
  | edit change next ih =>
    simp only [Program.run]
    cases applied : Role.apply _ change subject with
    | ok edited => exact ih (.ok ()) (listens _) edited memory
    | error failure => exact ih (.error failure) (listens _) subject memory
  | define code next => exact listens.elim
  | ask request next => exact listens.elim

/-! ## Calls by themselves -/

/-- A world that has nothing but code and a memory. -/
def World.bare (shelf : List (Code Memory)) (memory : Memory) : World Memory :=
  { World.initial .server ⟨.empty, [], "/", "/"⟩ memory with shelf }

/-- What a call of code comes to. -/
structure Effect (Memory : Type) (role : Role) where
  ending : Except Stop role.Result
  subject : role.Subject
  memory : Memory
  /-- The edits that were made to the subject, in order. -/
  edits : List role.Change

/-- What a call comes to by itself, where nothing but the memory passes into it. -/
def effect (shelf : List (Code Memory)) (code : CodeId) (role : Role) (input : role.Input)
    (subject : role.Subject) (memory : Memory) : Effect Memory role :=
  match shelf[code]? with
  | none => ⟨.error .undefined, subject, memory, []⟩
  | some written =>
    let program := written role input
    let (called, after) := (program.run (callWithin 0) subject).run (.bare shelf memory)
    ⟨called.ending, called.subject, after.memory,
      program.edits (callWithin 0) subject (.bare shelf memory)⟩

/-- The subject is left with all the edits that were made, and no others. -/
theorem effect_subject (shelf : List (Code Memory)) (code : CodeId) (role : Role)
    (input : role.Input) (subject : role.Subject) (memory : Memory) :
    (effect shelf code role input subject memory).subject =
      (effect shelf code role input subject memory).edits.foldl role.amend subject := by
  unfold effect
  cases shelf[code]? with
  | none => rfl
  | some written => exact Program.run_subject ..

/-- There is code of that number, and called in that role it only listens. -/
def ListensAs (shelf : List (Code Memory)) (code : CodeId) (role : Role) (input : role.Input) :
    Prop :=
  ∃ written, shelf[code]? = some written ∧ (written role input).Listens

/-- Code that only listens always comes to an end of its own, which those who call it
catch, and what it comes to is what it comes to by itself. -/
theorem Action.on_attempt_listens (depth : Nat) {world : World Memory} {code : CodeId}
    {role : Role} {input : role.Input} (listens : ListensAs world.shelf code role input)
    (subject : role.Subject) :
    ∃ ending : Except Payload role.Result,
      (effect world.shelf code role input subject world.memory).ending =
        ending.mapError Stop.panic ∧
      (attempt (callWithin (depth + 1)) code role input subject).on world =
        (.ok (ending, (effect world.shelf code role input subject world.memory).subject),
          { world.alter (·.note (.called code role input)) with
            memory := (effect world.shelf code role input subject world.memory).memory }) := by
  obtain ⟨written, there, listens⟩ := listens
  obtain ⟨ending, left, kept, ran⟩ := listens.run subject world.memory
  have alone := ran (callWithin 0) (.bare world.shelf world.memory) rfl
  have here := ran (callWithin depth) (world.alter (·.note (.called code role input))) rfl
  refine ⟨ending, ?_, ?_⟩
  · simp only [effect, there, alone]
  · rw [on_attempt, callWithin_succ]
    simp only [World.shelf_alter, effect, there, alone]
    rw [here]
    cases ending <;> rfl

/-- If it ends in good order by itself, it does so wherever it is called. -/
theorem Action.on_demand_listens (depth : Nat) {world : World Memory} {code : CodeId}
    {role : Role} {input : role.Input} (listens : ListensAs world.shelf code role input)
    {subject : role.Subject} {result : role.Result}
    (returns : (effect world.shelf code role input subject world.memory).ending = .ok result) :
    (demand (callWithin (depth + 1)) code role input subject).on world =
      (.ok (result, (effect world.shelf code role input subject world.memory).subject),
        { world.alter (·.note (.called code role input)) with
          memory := (effect world.shelf code role input subject world.memory).memory }) := by
  obtain ⟨ending, same, ran⟩ := on_attempt_listens depth listens subject
  obtain rfl : ending = .ok result := by
    rw [returns] at same
    cases ending with
    | error payload => cases same
    | ok result => exact congrArg Except.ok (Except.ok.inj same).symm
  unfold demand
  rw [on_bind_ok ran]
  rfl

/-! ## What stays as it is while code listens -/

/-- Whether a happening is more than a call of code. -/
def Happening.isNews : Happening → Bool
  | .called .. => false
  | _ => true

/-- The news of a history. -/
def State.news (state : State) : List Happening :=
  state.history.filter Happening.isNews

/-- What a world comes to while code listens: nothing changes but the log, the memory and
the history, which has some news to tell. -/
structure World.Overheard (world after : World Memory) (news : List Happening) : Prop where
  host : after.state.host = world.state.host
  adapters : after.state.adapters = world.state.adapters
  shelf : after.shelf = world.shelf
  history : ∃ more, after.state.history = world.state.history ++ more ∧
    more.filter Happening.isNews = news

namespace World.Overheard
variable {world between after : World Memory} {news more : List Happening}

theorem refl (world : World Memory) : world.Overheard world [] :=
  ⟨rfl, rfl, rfl, [], by simp, rfl⟩

theorem trans (first : world.Overheard between news) (second : between.Overheard after more) :
    world.Overheard after (news ++ more) := by
  obtain ⟨early, begun, earlyNews⟩ := first.history
  obtain ⟨late, ended, lateNews⟩ := second.history
  refine ⟨second.host.trans first.host, second.adapters.trans first.adapters,
    second.shelf.trans first.shelf, early ++ late, ?_, ?_⟩
  · rw [ended, begun, List.append_assoc]
  · rw [List.filter_append, earlyNews, lateNews]

theorem log (world : World Memory) (record : Log.Record) :
    world.Overheard (world.alter (·.log record)) [] :=
  ⟨rfl, rfl, rfl, [], by simp [State.log], rfl⟩

theorem note (world : World Memory) (happening : Happening) :
    world.Overheard (world.alter (·.note happening)) ([happening].filter Happening.isNews) :=
  ⟨rfl, rfl, rfl, [happening], rfl, rfl⟩

theorem called (world : World Memory) (code : CodeId) (role : Role) (input : role.Input)
    (memory : Memory) :
    world.Overheard { world.alter (·.note (.called code role input)) with memory } [] :=
  ⟨rfl, rfl, rfl, [.called code role input], rfl, rfl⟩

theorem bus (overheard : world.Overheard after news) (adapter : AdapterId) :
    after.state.bus adapter = world.state.bus adapter := by
  simp only [State.bus, State.adapter, overheard.adapters]

end World.Overheard

/-! ## Buses whose listeners only listen -/

/-- An event on its way along a bus: what it says by now, the memory, and the edits that
were made so far. -/
structure Hearing (Memory : Type) where
  event : Event
  memory : Memory
  edits : List Edit

/-- One more listener has its turn. -/
def Hearing.turn (shelf : List (Code Memory)) (hearing : Hearing Memory)
    (listener : Subscription) : Hearing Memory :=
  let effect := effect shelf listener.code .hear () hearing.event hearing.memory
  ⟨effect.subject, effect.memory, hearing.edits ++ effect.edits⟩

/-- What becomes of an event on the bus of an adapter, listener by listener in the order
they run. -/
def World.hearing (world : World Memory) (adapter : AdapterId) (event : Event)
    (memory : Memory) : Hearing Memory :=
  ((world.state.bus adapter).listeners event.kind).foldl (Hearing.turn world.shelf)
    ⟨event, memory, []⟩

/-- All that hear a kind of event on the bus of an adapter only listen. -/
def World.Attentive (world : World Memory) (adapter : AdapterId) (kind : EventKind) : Prop :=
  ∀ listener ∈ (world.state.bus adapter).listeners kind,
    ListensAs world.shelf listener.code .hear ()

/-- An event is left with all edits that were made on its way. -/
theorem World.hearing_event (world : World Memory) (adapter : AdapterId) (event : Event)
    (memory : Memory) :
    (world.hearing adapter event memory).event =
      (world.hearing adapter event memory).edits.foldl (Role.amend .hear) event := by
  have kept (listeners : List Subscription) (hearing : Hearing Memory)
      (edited : hearing.event = hearing.edits.foldl (Role.amend .hear) event) :
      (listeners.foldl (Hearing.turn world.shelf) hearing).event =
        (listeners.foldl (Hearing.turn world.shelf) hearing).edits.foldl
          (Role.amend .hear) event := by
    induction listeners generalizing hearing with
    | nil => exact edited
    | cons listener rest ih =>
      refine ih _ ?_
      simp only [Hearing.turn, List.foldl_append, ← edited]
      exact effect_subject ..
  exact kept _ ⟨event, memory, []⟩ rfl

namespace World.Overheard
variable {world after : World Memory} {news : List Happening}

theorem hearing (overheard : world.Overheard after news) (adapter : AdapterId) (event : Event)
    (memory : Memory) :
    after.hearing adapter event memory = world.hearing adapter event memory := by
  unfold World.hearing
  rw [overheard.bus, overheard.shelf]

theorem attentive (overheard : world.Overheard after news) {adapter : AdapterId} {kind : EventKind}
    (attentive : world.Attentive adapter kind) : after.Attentive adapter kind := by
  unfold World.Attentive
  rw [overheard.bus, overheard.shelf]
  exact attentive

end World.Overheard

namespace Action
variable (depth : Nat)

theorem on_deliverTo_listens {world : World Memory} {listener : Subscription}
    (listens : ListensAs world.shelf listener.code .hear ()) (event : Event) (edits : List Edit) :
    ∃ after, world.Overheard after [] ∧
      after.memory = (Hearing.turn world.shelf ⟨event, world.memory, edits⟩ listener).memory ∧
      (deliverTo (callWithin (depth + 1)) listener event).on world =
        (.ok (Hearing.turn world.shelf ⟨event, world.memory, edits⟩ listener).event, after) := by
  obtain ⟨ending, -, ran⟩ := on_attempt_listens depth listens event
  have called := World.Overheard.called world listener.code .hear ()
    (effect world.shelf listener.code .hear () event world.memory).memory
  unfold deliverTo
  rw [on_bind_ok ran]
  rcases ending with payload | message | _
  · exact ⟨_, called.trans (.log _ _), rfl, rfl⟩
  · exact ⟨_, called.trans (.log _ _), rfl, rfl⟩
  · exact ⟨_, called, rfl, rfl⟩

theorem on_deliver_listens (listeners : List Subscription) (world : World Memory)
    (listens : ∀ listener ∈ listeners, ListensAs world.shelf listener.code .hear ())
    (event : Event) (edits : List Edit) :
    ∃ after, world.Overheard after [] ∧
      after.memory =
        (listeners.foldl (Hearing.turn world.shelf) ⟨event, world.memory, edits⟩).memory ∧
      (deliver (callWithin (depth + 1)) listeners event).on world =
        (.ok (listeners.foldl (Hearing.turn world.shelf) ⟨event, world.memory, edits⟩).event,
          after) := by
  induction listeners generalizing world event edits with
  | nil => exact ⟨world, .refl world, rfl, rfl⟩
  | cons listener rest ih =>
    obtain ⟨first, others⟩ := List.forall_mem_cons.mp listens
    obtain ⟨between, overheard, memory, ran⟩ := on_deliverTo_listens depth first event edits
    obtain ⟨after, more, kept, ended⟩ := ih between
      (fun known member => overheard.shelf ▸ others known member)
      (Hearing.turn world.shelf ⟨event, world.memory, edits⟩ listener).event
      (Hearing.turn world.shelf ⟨event, world.memory, edits⟩ listener).edits
    rw [overheard.shelf, memory] at kept ended
    refine ⟨after, overheard.trans more, kept, ?_⟩
    unfold deliver
    rw [on_bind_ok ran]
    exact ended

/-- A dispatch to listeners that only listen always returns, and what it makes of the event
is what the listeners make of it one by one. -/
theorem on_dispatch_listens {world : World Memory} {adapter : AdapterId} {event : Event}
    (attentive : world.Attentive adapter event.kind) :
    ∃ after, world.Overheard after [.dispatched adapter event] ∧
      after.memory = (world.hearing adapter event world.memory).memory ∧
      (dispatch (callWithin (depth + 1)) adapter event).on world =
        (.ok (world.hearing adapter event world.memory).event, after) := by
  obtain ⟨after, overheard, memory, ran⟩ := on_deliver_listens depth
    ((world.state.bus adapter).listeners event.kind)
    (world.alter (·.note (.dispatched adapter event))) attentive event []
  exact ⟨after, (World.Overheard.note world (.dispatched adapter event)).trans overheard, memory,
    ran⟩

theorem on_bridge_listens {world : World Memory} {adapter : AdapterId} {event : Event}
    (source : String) (attentive : world.Attentive adapter event.kind) :
    ∃ after, world.Overheard after [.dispatched adapter event] ∧
      after.memory = (world.hearing adapter event world.memory).memory ∧
      (bridge (callWithin (depth + 1)) adapter source (.ok event)).on world =
        (.ok (some (world.hearing adapter event world.memory).event), after) := by
  obtain ⟨after, overheard, memory, ran⟩ := on_dispatch_listens depth attentive
  unfold bridge
  rw [on_bind_ok ran, on_bind_ok (on_see ..)]
  split
  · exact ⟨_, overheard.trans (.log _ _), memory, rfl⟩
  · exact ⟨_, overheard, memory, rfl⟩

/-- An adapter's turn at an event of the host, where its listeners only listen: what is
left to do is to turn away the player whom they refuse, if they refuse one. -/
theorem on_pass_listens {world : World Memory} (adapter : AdapterId) (event : HostEvent)
    {unified : Event} (unifies : event.unified world.state.host.kind = .ok unified)
    (attentive : world.Attentive adapter unified.kind)
    (turnAway : Host.PlayerId → String → Action Memory Unit) :
    ∃ after, world.Overheard after [.dispatched adapter unified] ∧
      let hearing := world.hearing adapter unified world.memory
      after.memory = hearing.memory ∧
      (pass (callWithin (depth + 1)) turnAway adapter event).on world =
        match hearing.event.refusal? with
        | some (player, reason) =>
          (turnAway player reason >>= fun _ => pure (event.reconciled hearing.event)).on after
        | none => (.ok (event.reconciled hearing.event), after) := by
  obtain ⟨after, overheard, memory, ran⟩ :=
    on_bridge_listens depth event.kind.name attentive
  refine ⟨after, overheard, memory, ?_⟩
  unfold pass
  rw [on_bind_ok (on_see ..), unifies, on_bind_ok ran]
  dsimp only
  cases (world.hearing adapter unified world.memory).event.refusal? <;> rfl

end Action
end PluginBridge
