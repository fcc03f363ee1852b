import PluginBridge.Proofs.Host.Roster
import PluginBridge.Proofs.World.Laws

/-! All that is asked of the world in the course of a run, moment by moment: by the program
itself, and by the listeners of the host whenever it has an event fired, however deep one firing
lies within another. Each moment keeps the world in which something was asked, so that a law can
speak of every point of a run, those in the middle of a firing included. If all code works on
the host's listeners only, a roster that is kept of these moments is followed by the host at
each of them. -/
namespace PluginBridge
open Host (Listener Roster)
variable {Memory : Type}

/-- Something is asked of a world. -/
structure Moment (Memory : Type) where
  request : Request
  world : World Memory

/-! ## The moments of a run -/

/-- The moments of a run of a program, each followed by those within the granting of what was
asked. -/
def Program.moments (call : Caller Memory)
    (within : Request → World Memory → List (Moment Memory)) {role : Role} :
    Program Memory role → role.Subject → World Memory → List (Moment Memory)
  | .finish _, _, _ => []
  | .panic _, _, _ => []
  | .recollect next, subject, world => (next world.memory).moments call within subject world
  | .remember change next, subject, world =>
    next.moments call within subject { world with memory := change world.memory }
  | .observe next, subject, world => (next subject).moments call within subject world
  | .edit change next, subject, world =>
    match role.apply change subject with
    | .ok edited => (next (.ok ())).moments call within edited world
    | .error failure => (next (.error failure)).moments call within subject world
  | .define code next, subject, world =>
    (next world.shelf.length).moments call within subject
      { world with shelf := world.shelf ++ [code] }
  | .ask request next, subject, world =>
    ⟨request, world⟩ :: (within request world ++
      match (perform call request).on world with
      | (.ok reply, after) => (next reply).moments call within subject after
      | (.error _, _) => [])

namespace Moment

/-- The moments within a firing, one listener after another. Those of listeners that are code
are told by what such code asks for when it is called; an adapter has none of its own. -/
def ofTurns (call : Caller Memory)
    (called : CodeId → HostEvent → World Memory → List (Moment Memory)) :
    List Listener → HostEvent → World Memory → List (Moment Memory)
  | [], _, _ => []
  | listener :: rest, event, world =>
    (match listener.hearer with
      | .code code => called code event (world.alter (·.note (.called code .hearHost ())))
      | .adapter _ => []) ++
    match (Action.hand call (Action.disconnect call) listener event).on world with
    | (.ok left, after) => ofTurns call called rest left after
    | (.error _, _) => []

/-- The moments within the granting of a request: there are some if an event is to be fired.
Requests that call code in other ways, as a join does, are not looked into. -/
def within (call : Caller Memory)
    (called : CodeId → HostEvent → World Memory → List (Moment Memory)) :
    Request → World Memory → List (Moment Memory)
  | .fire event, world =>
    ofTurns call called (world.state.host.registry.listenersOf event.kind) event
      (world.alter (·.note (.fired event)))
  | _, _ => []

/-- The moments of a call of a listener, with so many calls nested in it at most. -/
def ofCall : Nat → CodeId → HostEvent → World Memory → List (Moment Memory)
  | 0, _, _, _ => []
  | depth + 1, code, event, world =>
    match world.shelf[code]? with
    | none => []
    | some written =>
      (written .hearHost ()).moments (callWithin depth) (within (callWithin depth) (ofCall depth))
        event world

end Moment

namespace World

/-- Runs programs one after another. One that is stopped does not keep the next from being
run. -/
def runAll (depth : Nat) : List (Program Memory .main) → World Memory → World Memory
  | [], world => world
  | program :: rest, world => runAll depth rest (world.run depth program).2

/-- The moments of programs that are run one after another. -/
def moments (depth : Nat) :
    List (Program Memory .main) → World Memory → List (Moment Memory)
  | [], _ => []
  | program :: rest, world =>
    program.moments (callWithin depth) (Moment.within (callWithin depth) (Moment.ofCall depth))
      () world ++ moments depth rest (world.run depth program).2

end World

/-! ## Work on listeners -/

/-- To register and remove listeners, to shut the host down and to have it fire events; and
what neither has to do with listeners nor calls any code. -/
def Request.OfListeners (_ : State) : Request → Prop
  | .listen .. | .unlisten _ | .unlistenOwner _ | .shutdown | .fire _ => True
  | .look | .log _ | .drop .. | .setPermission .. | .tell .. | .addServer .. | .sendData .. => True
  | .offer .. | .withdraw _ => True
  | .newAdapter .. | .subscribe .. | .unsubscribe .. | .unsubscribeOwner .. => True
  | _ => False

/-- The host follows its roster, and all code works on listeners only. -/
structure World.Enrols (world : World Memory) (roster : Roster) : Prop where
  sound : roster.Sound
  follows : world.state.host.Follows roster
  heeds : world.Heeds Request.OfListeners

namespace World.Enrols
variable {world later : World Memory} {roster : Roster}

theorem of_same (enrols : world.Enrols roster) (shelf : later.shelf = world.shelf)
    (registry : later.state.host.registry.listeners = world.state.host.registry.listeners ∧
      later.state.host.registry.nextListener = world.state.host.registry.nextListener)
    (closed : later.state.host.closed = world.state.host.closed) : later.Enrols roster where
  sound := enrols.sound
  follows := enrols.follows.of_same registry closed
  heeds := by
    unfold World.Heeds
    rw [shelf]
    exact enrols.heeds

theorem note (enrols : world.Enrols roster) (happening : Happening) :
    (world.alter (·.note happening)).Enrols roster :=
  enrols.of_same rfl ⟨rfl, rfl⟩ rfl

theorem coded (enrols : world.Enrols roster) :
    ∀ listener ∈ world.state.host.registry.listeners, ∃ code, listener.hearer = .code code := by
  rw [enrols.follows.listeners]
  exact fun listener member => enrols.sound.coded listener (roster.live_sublist.subset member)

end World.Enrols

/-- At each of some moments the host follows the roster as it stands by then. -/
inductive Recounts : Roster → List (Moment Memory) → Prop where
  | nil (roster : Roster) : Recounts roster []
  | cons {roster : Roster} {moment : Moment Memory} {rest : List (Moment Memory)}
      (enrols : moment.world.Enrols roster)
      (following : Recounts (roster.serve moment.request) rest) :
      Recounts roster (moment :: rest)

/-- The roster once all has been served that is asked at some moments. -/
abbrev Host.Roster.through (roster : Roster) (moments : List (Moment Memory)) : Roster :=
  roster.serveAll (moments.map (·.request))

/-- What some moments come to: the host has followed the roster all along, and follows it in the
end. -/
structure Covers (roster : Roster) (moments : List (Moment Memory)) (after : World Memory) :
    Prop where
  recounts : Recounts roster moments
  ends : after.Enrols (roster.through moments)

section
variable {roster : Roster} {first second : List (Moment Memory)} {between after : World Memory}

theorem Recounts.append (begun : Recounts roster first)
    (following : Recounts (roster.through first) second) : Recounts roster (first ++ second) := by
  induction begun with
  | nil roster => exact following
  | cons enrols _ ih => exact .cons enrols (ih following)

/-- The roster at a moment is the one of all that was asked before. -/
theorem Recounts.at {moment : Moment Memory}
    (recounts : Recounts roster (first ++ moment :: second)) :
    moment.world.Enrols (roster.through first) := by
  induction first generalizing roster with
  | nil =>
    cases recounts with
    | cons enrols following => exact enrols
  | cons earlier rest ih =>
    cases recounts with
    | cons enrols following => exact ih following

theorem Covers.nil (enrols : after.Enrols roster) : Covers roster [] after := ⟨.nil roster, enrols⟩

theorem Covers.append (begun : Covers roster first between)
    (following : Covers (roster.through first) second after) :
    Covers roster (first ++ second) after := by
  refine ⟨begun.recounts.append following.recounts, ?_⟩
  rw [Host.Roster.through, List.map_append, Host.Roster.serveAll_append]
  exact following.ends

theorem Covers.cons {moment : Moment Memory} (enrols : moment.world.Enrols roster)
    (following : Covers (roster.serve moment.request) second after) :
    Covers roster (moment :: second) after :=
  ⟨.cons enrols following.recounts, following.ends⟩

end

/-! ## Runs -/

/-- What is asked by a listener when it is called comes to the moments that are told of it. -/
def Caller.Covered (call : Caller Memory)
    (called : CodeId → HostEvent → World Memory → List (Moment Memory)) : Prop :=
  ∀ (code : CodeId) (event : HostEvent) (world : World Memory) (roster : Roster),
    world.Enrols roster →
      Covers roster (called code event world) ((call code .hearHost () event).run world).2

namespace Action
variable {call : Caller Memory} {roster : Roster}

/-- A listener that is code is called, and leaves the event with its edits if it returns. -/
theorem on_hand_code (call : Caller Memory)
    (turnAway : Host.PlayerId → String → Action Memory Unit) {listener : Listener} {code : CodeId}
    (hears : listener.hearer = .code code) (event : HostEvent) (world : World Memory) :
    let called := (call code .hearHost () event).run
      (world.alter (·.note (.called code .hearHost ())))
    (hand call turnAway listener event).on world =
      (called.1.ending.map fun _ => called.1.subject, called.2) := by
  unfold hand
  rw [hears]
  dsimp only
  rw [on_bind, on_demand]
  generalize (call code .hearHost () event).run _ = called
  rcases called with ⟨⟨_ | _, _⟩, _⟩ <;> rfl

/-- What is asked without an event being fired is served as the roster says. -/
theorem perform_enrols {request : Request} {world : World Memory} (enrols : world.Enrols roster)
    (works : request.OfListeners world.state) (quiet : ∀ event, request ≠ .fire event) :
    ((perform call request).on world).2.Enrols (roster.serve request) := by
  cases request with
  | fire event => exact absurd rfl (quiet event)
  | listen owner kind code =>
    cases closed : world.state.host.closed with
    | true =>
      have same : roster.serve (.listen owner kind code) = roster := by
        simp [Host.Roster.serve, ← enrols.follows.closed, closed]
      rw [on_listen_closed call world closed, same]
      exact enrols
    | false =>
      have added : roster.serve (.listen owner kind code) =
          roster.enrol ⟨roster.nextId, owner, kind, .code code⟩ := by
        simp [Host.Roster.serve, ← enrols.follows.closed, closed]
      rw [on_listen_open call world closed]
      exact ⟨enrols.sound.serve _, added ▸ enrols.follows.enrol owner kind code, enrols.heeds⟩
  | unlisten id =>
    have struck := enrols.follows.strike (·.id = id)
    simp only [← decide_not] at struck
    rw [on_unlisten call world id]
    exact ⟨enrols.sound.serve _, struck, enrols.heeds⟩
  | unlistenOwner owner =>
    have struck := enrols.follows.strike (·.owner = owner)
    simp only [← decide_not] at struck
    rw [on_unlistenOwner call world owner]
    exact ⟨enrols.sound.serve _, struck, enrols.heeds⟩
  | shutdown =>
    exact ⟨enrols.sound.serve _, ⟨enrols.follows.listeners, enrols.follows.next, rfl⟩, enrols.heeds⟩
  | offer owner name aliases code =>
    simp only [perform, tryHost, on_answer, World.alter]
    cases accepted : world.state.host.addCommand ⟨owner, name, aliases, .code code⟩ with
    | error refusal => exact enrols
    | ok answer =>
      obtain ⟨-, -, same⟩ := Host.addCommand_ok accepted
      exact enrols.of_same rfl (by simp [same, Host.Registry.addCommand]) (by simp [same])
  | tell user message =>
    cases user <;> exact enrols.of_same rfl ⟨rfl, rfl⟩ rfl
  | look | log | drop | setPermission | addServer | sendData | withdraw | newAdapter | subscribe
  | unsubscribe | unsubscribeOwner => exact enrols.of_same rfl ⟨rfl, rfl⟩ rfl
  | _ => exact works.elim

/-- Listeners that are code take their turns. -/
theorem handAll_covers {called : CodeId → HostEvent → World Memory → List (Moment Memory)}
    (covered : call.Covered called) {listeners : List Listener}
    (coded : ∀ listener ∈ listeners, ∃ code, listener.hearer = .code code) (event : HostEvent)
    {world : World Memory} (enrols : world.Enrols roster) :
    Covers roster (Moment.ofTurns call called listeners event world)
      ((handAll call (disconnect call) listeners event).on world).2 := by
  induction listeners generalizing event world roster with
  | nil => exact .nil enrols
  | cons listener rest ih =>
    obtain ⟨⟨code, hears⟩, others⟩ := List.forall_mem_cons.mp coded
    have first := covered code event _ roster (enrols.note (.called code .hearHost ()))
    have handed := on_hand_code call (disconnect call) hears event world
    unfold Moment.ofTurns handAll
    rw [hears, on_bind, handed]
    dsimp only
    generalize (call code .hearHost () event).run _ = ran at first ⊢
    rcases ran with ⟨⟨stop | result, left⟩, after⟩
    · simpa [Except.map] using first
    · exact first.append (ih others left first.ends)

/-- Whatever is asked, all that is asked within it is served as the roster says. -/
theorem perform_covers {called : CodeId → HostEvent → World Memory → List (Moment Memory)}
    (covered : call.Covered called) {request : Request} {world : World Memory}
    (enrols : world.Enrols roster) (works : request.OfListeners world.state) :
    Covers (roster.serve request) (Moment.within call called request world)
      ((perform call request).on world).2 := by
  cases request with
  | fire event =>
    simp only [perform, fire, fireWith, Moment.within]
    rw [on_bind_ok (on_note ..), on_bind_ok (on_see ..)]
    refine handAll_covers covered (fun listener member => ?_) event (enrols.note _)
    exact enrols.coded listener (List.mem_of_mem_filter member)
  | _ => exact .nil (perform_enrols enrols works (by simp))

end Action

section
variable {call : Caller Memory} {roster : Roster} {world : World Memory}
  {called : CodeId → HostEvent → World Memory → List (Moment Memory)}

theorem Program.covers
    (covered : call.Covered called)
    {role : Role} (program : Program Memory role) {seen : Option State}
    (heeds : program.Heeds Request.OfListeners seen) (subject : role.Subject)
    (enrols : world.Enrols roster) :
    Covers roster (program.moments call (Moment.within call called) subject world)
      ((program.run call subject).run world).2 := by
  induction program generalizing world roster seen with
  | finish result => exact .nil enrols
  | panic payload => exact .nil enrols
  | recollect next ih => exact ih _ (heeds _) subject enrols
  | remember change next ih => exact ih heeds subject (enrols.of_same rfl ⟨rfl, rfl⟩ rfl)
  | observe next ih => exact ih _ (heeds _) subject enrols
  | edit change next ih =>
    simp only [moments, run]
    cases Role.apply _ change subject with
    | ok edited => exact ih _ (heeds _) edited enrols
    | error failure => exact ih _ (heeds _) subject enrols
  | define code next _ ih =>
    refine ih _ (heeds.2 _) subject ⟨enrols.sound, enrols.follows, ?_⟩
    exact List.forall_mem_append.mpr ⟨enrols.heeds, List.forall_mem_singleton.mpr heeds.1⟩
  | ask request next ih =>
    have works : request.OfListeners world.state := by
      cases seen with
      | none => exact heeds.1 world.state (by simp)
      | some known => exact heeds.1 known (by simp)
    have granted := Action.perform_covers covered enrols works
    simp only [moments]
    rw [run_ask]
    generalize (perform call request).on world = ran at granted ⊢
    rcases ran with ⟨stop | reply, after⟩
    · simpa using Covers.cons enrols granted
    · exact .cons enrols (granted.append (ih reply (heeds.2 reply) subject granted.ends))

/-- A call of a listener, however deep. -/
theorem callWithin_covered (depth : Nat) :
    (callWithin depth : Caller Memory).Covered (Moment.ofCall depth) := by
  induction depth with
  | zero => exact fun _ _ _ _ enrols => .nil enrols
  | succ depth ih =>
    intro code event world roster enrols
    rw [callWithin_succ]
    unfold Moment.ofCall
    cases there : world.shelf[code]? with
    | none => exact .nil enrols
    | some written =>
      exact Program.covers ih _ (enrols.heeds written (List.mem_of_getElem? there) .hearHost ())
        event enrols

/-- Programs that are run one after another. -/
theorem World.Enrols.covers (enrols : world.Enrols roster) (depth : Nat)
    {programs : List (Program Memory .main)}
    (heeds : ∀ program ∈ programs, program.Heeds Request.OfListeners none) :
    Covers roster (world.moments depth programs) (world.runAll depth programs) := by
  induction programs generalizing world roster with
  | nil => exact .nil enrols
  | cons program rest ih =>
    obtain ⟨now, later⟩ := List.forall_mem_cons.mp heeds
    have begun := Program.covers (callWithin_covered depth) program now () enrols
    exact begun.append (ih begun.ends later)

end

end PluginBridge
