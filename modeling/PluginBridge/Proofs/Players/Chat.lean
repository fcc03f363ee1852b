import PluginBridge.Proofs.State.Players
import PluginBridge.Proofs.World.Listening
import PluginBridge.Script

/-! What becomes of a chat message. The host's listeners have their turns in the order of
their registration: each finds the message and the flag as those before have left them,
code of the host edits them in place, and an adapter puts in what its whole bus has made
of them. What the last one leaves is what the host obeys. -/
namespace PluginBridge
open Host (PlayerId)
variable {Memory : Type}

/-- A message on its way through the listeners of a host. -/
structure Saying (Memory : Type) where
  message : String
  cancelled : Bool
  memory : Memory

/-- One more listener of the host has its turn at what a player says. -/
def World.saidAfter (world : World Memory) (player : PlayerId) (saying : Saying Memory)
    (listener : Host.Listener) : Saying Memory :=
  match listener.hearer with
  | .code id =>
    let effect := effect world.shelf id .hearHost ()
      (.chat player saying.message saying.cancelled) saying.memory
    match effect.subject with
    | .chat _ message cancelled => ⟨message, cancelled, effect.memory⟩
    | _ => { saying with memory := effect.memory }
  | .adapter id =>
    let hearing := world.hearing id
      (.chat ⟨player, saying.message, saying.cancelled, true, true⟩) saying.memory
    match hearing.event with
    | .chat details => ⟨details.message, details.cancelled, hearing.memory⟩
    | _ => { saying with memory := hearing.memory }

/-- What all listeners of the host together make of what a player says. -/
def World.saidInTheEnd (world : World Memory) (player : PlayerId) (message : String) :
    Saying Memory :=
  (world.state.host.registry.listenersOf .chat).foldl (world.saidAfter player)
    ⟨message, false, world.memory⟩

/-- A listener of the host that only listens to what is said: code that returns in good
order, or an adapter whose listeners may fail. -/
def World.HeedsChat (world : World Memory) (listener : Host.Listener) : Prop :=
  match listener.hearer with
  | .code id =>
    ListensAs world.shelf id .hearHost () ∧
      ∀ event memory, (effect world.shelf id .hearHost () event memory).ending = .ok ()
  | .adapter id => world.Attentive id .chat

/-- Edits of a host's chat event leave it a chat event of that player. -/
theorem HostEvent.chat_edits (edits : List HostEdit) (player : PlayerId) (message : String)
    (cancelled : Bool) :
    ∃ text flag, edits.foldl (Role.amend .hearHost) (.chat player message cancelled) =
      .chat player text flag := by
  induction edits generalizing message cancelled with
  | nil => exact ⟨message, cancelled, rfl⟩
  | cons edit rest ih => cases edit <;> exact ih _ _

/-- Edits of a chat event that may be edited change its message and its flag. -/
theorem Event.chat_edits (edits : List Edit) (player : PlayerId) (message : String)
    (cancelled : Bool) :
    ∃ text flag, edits.foldl (Role.amend .hear) (.chat ⟨player, message, cancelled, true, true⟩) =
      .chat ⟨player, text, flag, true, true⟩ := by
  induction edits generalizing message cancelled with
  | nil => exact ⟨message, cancelled, rfl⟩
  | cons edit rest ih => cases edit <;> exact ih _ _

/-- What a bus has made of a chat event that may be edited is written back as it is. -/
theorem HostEvent.reconciled_chat (player : PlayerId) (message text : String)
    (cancelled flag : Bool) :
    (HostEvent.chat player message cancelled).reconciled
      (.chat ⟨player, text, flag, true, true⟩) = .chat player text flag := by
  simp only [reconciled, Chat.writeBack]
  by_cases same : text = message <;> simp [same]

namespace World.Overheard
variable {world after : World Memory} {news : List Happening}

theorem saidAfter (overheard : world.Overheard after news) (player : PlayerId) :
    after.saidAfter player = world.saidAfter player := by
  funext saying listener
  simp only [World.saidAfter, overheard.shelf, overheard.hearing]

theorem heedsChat (overheard : world.Overheard after news) {listener : Host.Listener}
    (heeds : world.HeedsChat listener) : after.HeedsChat listener := by
  unfold World.HeedsChat at heeds ⊢
  cases hearer : listener.hearer with
  | code id => simpa only [hearer, overheard.shelf] using heeds
  | adapter id =>
    rw [hearer] at heeds
    exact overheard.attentive heeds

end World.Overheard

namespace Action
variable (depth : Nat) (turnAway : PlayerId → String → Action Memory Unit)

/-- A listener's turn at a chat event. Nobody is turned away for what is said. -/
theorem on_hand_chat {world : World Memory} {listener : Host.Listener}
    (heeds : world.HeedsChat listener) (player : PlayerId) (message : String) (cancelled : Bool) :
    ∃ news after, world.Overheard after news ∧
      let said := world.saidAfter player ⟨message, cancelled, world.memory⟩ listener
      after.memory = said.memory ∧
      (hand (callWithin (depth + 1)) turnAway listener (.chat player message cancelled)).on world =
        (.ok (.chat player said.message said.cancelled), after) := by
  unfold World.HeedsChat at heeds
  simp only [hand, World.saidAfter]
  cases hearer : listener.hearer with
  | code id =>
    rw [hearer] at heeds
    obtain ⟨listens, returns⟩ := heeds
    have ran := on_demand_listens depth listens (returns (.chat player message cancelled) _)
    obtain ⟨text, flag, left⟩ := HostEvent.chat_edits (effect world.shelf id .hearHost ()
      (.chat player message cancelled) world.memory).edits player message cancelled
    rw [← effect_subject] at left
    refine ⟨[], _, .called world id .hearHost () (effect world.shelf id .hearHost ()
      (.chat player message cancelled) world.memory).memory, ?_⟩
    simp only [left] at ran ⊢
    refine ⟨trivial, ?_⟩
    rw [on_bind_ok ran]
    rfl
  | adapter id =>
    rw [hearer] at heeds
    obtain ⟨after, overheard, memory, ran⟩ := on_pass_listens depth id
      (.chat player message cancelled) rfl heeds turnAway
    obtain ⟨text, flag, left⟩ := Event.chat_edits (world.hearing id
      (.chat ⟨player, message, cancelled, true, true⟩) world.memory).edits player message cancelled
    rw [← World.hearing_event] at left
    refine ⟨_, after, overheard, ?_⟩
    simp only [left] at ran ⊢
    refine ⟨memory, ran.trans ?_⟩
    simp only [Event.refusal?, HostEvent.reconciled_chat]

/-- All listeners' turns together are the left fold of the single turns. -/
theorem on_handAll_chat (listeners : List Host.Listener) (world : World Memory)
    (heed : ∀ listener ∈ listeners, world.HeedsChat listener) (player : PlayerId)
    (message : String) (cancelled : Bool) :
    ∃ news after, world.Overheard after news ∧
      let said := listeners.foldl (world.saidAfter player) ⟨message, cancelled, world.memory⟩
      after.memory = said.memory ∧
      (handAll (callWithin (depth + 1)) turnAway listeners
        (.chat player message cancelled)).on world =
        (.ok (.chat player said.message said.cancelled), after) := by
  induction listeners generalizing world message cancelled with
  | nil => exact ⟨[], world, .refl world, rfl, rfl⟩
  | cons listener rest ih =>
    obtain ⟨first, others⟩ := List.forall_mem_cons.mp heed
    obtain ⟨news, between, overheard, memory, ran⟩ :=
      on_hand_chat depth turnAway first player message cancelled
    obtain ⟨more, after, further, kept, ended⟩ := ih between
      (fun known member => overheard.heedsChat (others known member))
      (world.saidAfter player ⟨message, cancelled, world.memory⟩ listener).message
      (world.saidAfter player ⟨message, cancelled, world.memory⟩ listener).cancelled
    rw [overheard.saidAfter, memory] at kept ended
    refine ⟨_, after, overheard.trans further, kept, ?_⟩
    unfold handAll
    rw [on_bind_ok ran]
    exact ended

end Action

/-- What a player says goes through the host's listeners in the order of their
registration, starting with the message as it was said and not held back; each turn starts
from what the turn before has left. Adapters start their buses from the host's message and
flag and put in what the bus leaves, whose listeners run by priority and in the order of
registration, and may fail. If the message is held back in the end, nothing is answered
and nobody is told anything. Otherwise the answer is the message as it is left, each
connected player is told it once with the speaker's name, and nobody else is. -/
theorem chat_folds_over_listeners (depth : Nat) (world : World Memory) (player : PlayerId)
    (message : String) (reached : world.state.Reachable)
    (heed : ∀ listener ∈ world.state.host.registry.listenersOf .chat, world.HeedsChat listener) :
    ∃ after,
      let host := world.state.host
      let said := world.saidInTheEnd player message
      (Action.chat (callWithin (depth + 1)) player message).on world =
        (.ok (if said.cancelled then none else some said.message), after) ∧
      (∀ id, after.state.host.player? id = (host.player? id).map fun known =>
        if said.cancelled = false ∧ id ∈ host.players then
          known.receive (Action.chatLine (host.playerName player) said.message)
        else known) ∧
      after.state.host.console = host.console ∧ after.memory = said.memory ∧
      ∀ adapter, ((world.state.bus adapter).listeners .chat).Pairwise
        Subscription.RunsBefore := by
  have order (adapter : AdapterId) :
      ((world.state.bus adapter).listeners .chat).Pairwise Subscription.RunsBefore := by
    obtain ⟨requests, served⟩ := reached.bus adapter
    rw [served]
    exact (EventBus.after_follows requests).order.sublist List.filter_sublist
  obtain ⟨news, after, overheard, memory, ran⟩ := Action.on_handAll_chat depth
    (Action.disconnect (callWithin (depth + 1))) (world.state.host.registry.listenersOf .chat)
    (world.alter (·.note (.fired (.chat player message false)))) heed player message false
  have fired : (Action.fire (callWithin (depth + 1)) (.chat player message false)).on world =
      (.ok (.chat player (world.saidInTheEnd player message).message
        (world.saidInTheEnd player message).cancelled), after) := ran
  have host : after.state.host = world.state.host := overheard.host
  have kept : after.memory = (world.saidInTheEnd player message).memory := memory
  open PluginBridge.Action in
  unfold chat
  rw [on_bind_ok fired]
  cases held : (world.saidInTheEnd player message).cancelled with
  | true =>
    refine ⟨after, by simp only [held]; rfl, fun id => ?_, by rw [host], kept, order⟩
    simp [host, held]
  | false =>
    refine ⟨after.alter (·.updateHost fun host => host.broadcast (chatLine
      (host.playerName player) (world.saidInTheEnd player message).message)),
      by simp only [held]; rfl, fun id => ?_, ?_, kept, order⟩
    · simp only [World.state_alter, State.updateHost, host, held, true_and]
      exact Host.player?_tellAll _ (reached.roll.nodup.sublist List.filter_sublist) _ id
    · simp only [World.state_alter, State.updateHost, host]
      rw [Host.broadcast_eq]

/-- A listener of the host that raises its voice, one on a bus that holds everything back
and panics, and one that lets everything pass and fails. -/
def noisyShelf : List (Code Unit) :=
  [.hostListener (.observe fun
      | .chat _ message _ => .edit (.message (message ++ "!")) fun _ => .finish ()
      | _ => .finish ()),
    .listener (.edit (.cancelled true) fun _ => .panic .other),
    .listener (.edit (.cancelled false) fun _ => .finish (.error "refused"))]

/-- The first adapter is followed by the host's own listener, and that by the second
adapter; of three players one has lost the connection. -/
def noisyChanges : List Change :=
  [.newAdapter "memory" "CONSOLE" false, .newAdapter "memory" "CONSOLE" true, .attach 0,
    .listen "host" .chat 0, .attach 1, .subscribe 0 (some .chat) "mute" .normal 1,
    .subscribe 1 none "free" .monitor 2, .join "Steve", .join "Alex", .join "Kim",
    .drop 2 "timeout"]

def noisyWorld : World Unit where
  state := noisyChanges.foldl State.change (.initial .server ⟨.empty, [], "/", "/"⟩)
  memory := ()
  shelf := noisyShelf

/-- What the first adapter has held back, the second lets pass, with what the host's
listener has made of it in between. -/
theorem chat_passes_noisy_listeners :
    noisyWorld.state.Reachable ∧
      (∀ listener ∈ noisyWorld.state.host.registry.listenersOf .chat,
        noisyWorld.HeedsChat listener) ∧
      ∃ after, (Action.chat (callWithin 1) 0 "hi").on noisyWorld = (.ok (some "hi!"), after) ∧
        (after.state.host.player? 1).map (·.messages) = some ["<Steve> hi!"] ∧
        (after.state.host.player? 2).map (·.messages) = some [] := by
  have reached : noisyWorld.state.Reachable :=
    ⟨.server, ⟨.empty, [], "/", "/"⟩, noisyChanges, fun _ _ => trivial, rfl⟩
  have heed : ∀ listener ∈ noisyWorld.state.host.registry.listenersOf .chat,
      noisyWorld.HeedsChat listener := by
    have listeners : noisyWorld.state.host.registry.listenersOf .chat =
        [⟨2, Adapter.owner, .chat, .adapter 0⟩, ⟨5, "host", .chat, .code 0⟩,
          ⟨7, Adapter.owner, .chat, .adapter 1⟩] := by
      decide +kernel
    have first : (noisyWorld.state.bus 0).listeners .chat =
        [⟨0, "mute", .normal, some .chat, 1⟩] := by
      decide +kernel
    have second : (noisyWorld.state.bus 1).listeners .chat = [⟨0, "free", .monitor, none, 2⟩] := by
      decide +kernel
    have returns (event : HostEvent) (memory : Unit) :
        (effect noisyShelf 0 .hearHost () event memory).ending = .ok () := by
      cases event <;> rfl
    rw [listeners]
    refine List.forall_mem_cons.mpr ⟨?_, List.forall_mem_cons.mpr ⟨⟨⟨_, rfl, ?_⟩, returns⟩,
      List.forall_mem_singleton.mpr ?_⟩⟩
    · simp only [World.HeedsChat, World.Attentive, first, List.forall_mem_singleton]
      exact ⟨_, rfl, fun _ => trivial⟩
    · intro event
      cases event with
      | chat player message cancelled => exact fun _ => trivial
      | _ => trivial
    · simp only [World.HeedsChat, World.Attentive, second, List.forall_mem_singleton]
      exact ⟨_, rfl, fun _ => trivial⟩
  have said : (noisyWorld.saidInTheEnd 0 "hi").message = "hi!" ∧
      (noisyWorld.saidInTheEnd 0 "hi").cancelled = false := by
    decide +kernel
  obtain ⟨after, ran, told, -⟩ := chat_folds_over_listeners 0 noisyWorld 0 "hi" reached heed
  refine ⟨reached, heed, after, ?_, ?_, ?_⟩
  · rw [ran, said.1, said.2]
    rfl
  · rw [told, said.1, said.2]
    decide +kernel
  · rw [told, said.1, said.2]
    decide +kernel

end PluginBridge
