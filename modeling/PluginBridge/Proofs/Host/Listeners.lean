import PluginBridge.Proofs.World.Firing
import PluginBridge.Proofs.World.Moments
import PluginBridge.Script

/-! The listeners of a host at every moment of a run in which they are registered, removed and
called, by programs or by one another in the middle of a firing. The host has the listeners that
its roster has not struck out, answers every request as the roster says, and fires an event at
exactly those of them who hear its kind: one event for all of them, which each finds with the
edits of those before. -/
namespace PluginBridge
open Host (PlayerId Listener ListenerId Roster)
variable {Memory : Type}

/-! ## One event for all -/

/-- The edits that a listener makes to an event when it is called, with so many calls nested in
it at most. -/
def callEdits : Nat → CodeId → HostEvent → World Memory → List HostEdit
  | 0, _, _, _ => []
  | depth + 1, code, event, world =>
    match world.shelf[code]? with
    | none => []
    | some written => (written .hearHost ()).edits (callWithin depth) event world

/-- However the call ends, the event is left with these edits and no others. -/
theorem callWithin_subject (depth : Nat) (code : CodeId) (event : HostEvent)
    (world : World Memory) :
    ((callWithin depth code .hearHost () event).run world).1.subject =
      (callEdits depth code event world).foldl (Role.amend .hearHost) event := by
  cases depth with
  | zero => rfl
  | succ depth =>
    rw [callWithin_succ]
    simp only [callEdits]
    cases world.shelf[code]? with
    | none => rfl
    | some written => exact Program.run_subject ..

namespace HostTurn

/-- The call of a listener that is code, as it came out. -/
def CallsCode (depth : Nat) (turn : HostTurn Memory) : Prop :=
  ∃ code, turn.listener.hearer = .code code ∧
    let called := (callWithin depth code .hearHost () turn.found).run
      (turn.before.alter (·.note (.called code .hearHost ())))
    turn.outcome = (called.1.ending.map fun _ => called.1.subject, called.2)

/-- The edits that are made to the event in a turn. -/
def edits (depth : Nat) (turn : HostTurn Memory) : List HostEdit :=
  match turn.listener.hearer with
  | .code code =>
    callEdits depth code turn.found (turn.before.alter (·.note (.called code .hearHost ())))
  | .adapter _ => []

/-- A listener that returns leaves the event with its edits. -/
theorem CallsCode.left {depth : Nat} {turn : HostTurn Memory} (calls : turn.CallsCode depth)
    {left : HostEvent} (returned : turn.outcome.1 = .ok left) :
    left = (turn.edits depth).foldl (Role.amend .hearHost) turn.found := by
  obtain ⟨code, hears, came⟩ := calls
  rw [edits, hears]
  dsimp only at came ⊢
  rw [← callWithin_subject]
  generalize (callWithin depth code .hearHost () turn.found).run _ = called at came ⊢
  rw [came] at returned
  rcases called with ⟨⟨_ | _, _⟩, _⟩ <;> cases returned
  rfl

end HostTurn

namespace HostTurns
variable {depth : Nat} {turnAway : PlayerId → String → Action Memory Unit}
  {world : World Memory} {event : HostEvent} {listeners : List Listener}
  {turns : List (HostTurn Memory)} {outcome : Except Stop HostEvent × World Memory}

theorem calls_code
    (taken : HostTurns (callWithin depth) turnAway world event listeners turns outcome)
    (coded : ∀ listener ∈ listeners, ∃ code, listener.hearer = .code code) :
    ∀ turn ∈ turns, turn.CallsCode depth := by
  intro turn member
  obtain ⟨code, hears⟩ :=
    coded _ (taken.listeners_eq.1.subset (List.mem_map_of_mem member))
  refine ⟨code, hears, ?_⟩
  rw [← taken.made turn member]
  exact Action.on_hand_code _ _ hears _ _

/-- Each listener finds the event with the edits of those before it, and a firing that returns
gives back the event with all edits. -/
theorem threaded
    (taken : HostTurns (callWithin depth) turnAway world event listeners turns outcome)
    (calls : ∀ turn ∈ turns, turn.CallsCode depth) :
    (∀ earlier turn later, turns = earlier ++ turn :: later →
      turn.found = (earlier.flatMap (·.edits depth)).foldl (Role.amend .hearHost) event) ∧
    ∀ answer, outcome.1 = .ok answer →
      answer = (turns.flatMap (·.edits depth)).foldl (Role.amend .hearHost) event := by
  induction taken with
  | done world event => exact ⟨by simp, fun answer same => (Except.ok.inj same).symm⟩
  | stopped listeners failed =>
    refine ⟨fun earlier turn later split => ?_, nofun⟩
    obtain ⟨rfl, only⟩ | ⟨-, none⟩ := List.singleton_eq_append_iff.mp split
    · obtain ⟨rfl, -⟩ := List.cons.inj only
      rfl
    · cases none
  | next returned following ih =>
    obtain ⟨first, others⟩ := List.forall_mem_cons.mp calls
    obtain ⟨found, answers⟩ := ih others
    have left := first.left rfl
    refine ⟨fun earlier turn later split => ?_, fun answer ended => ?_⟩
    · cases earlier with
      | nil =>
        obtain ⟨rfl, -⟩ := List.cons.inj split
        rfl
      | cons head rest =>
        obtain ⟨rfl, among⟩ := List.cons.inj split
        rw [found rest turn later among, List.flatMap_cons, List.foldl_append, ← left]
    · rw [answers answer ended, List.flatMap_cons, List.foldl_append, ← left]

end HostTurns

/-- To fire an event is to hand it to some listeners in turn, all of which are code. Each finds
the event with the edits of those before it. They all get their turns, and the event comes back
with all edits; or a listener does not return, and the firing ends with its turn. -/
def World.Fires (world : World Memory) (depth : Nat) (event : HostEvent)
    (heard : List Listener) : Prop :=
  let ran := (perform (callWithin depth) (.fire event)).on world
  ∃ turns, HostTurns (callWithin depth) (Action.disconnect (callWithin depth))
      (world.alter (·.note (.fired event))) event heard turns ran ∧
    (∀ turn ∈ turns, turn.CallsCode depth) ∧
    (∀ earlier turn later, turns = earlier ++ turn :: later →
      turn.found = (earlier.flatMap (·.edits depth)).foldl (Role.amend .hearHost) event) ∧
    ((turns.map (·.listener) = heard ∧
        ran.1 = .ok ((turns.flatMap (·.edits depth)).foldl (Role.amend .hearHost) event)) ∨
      ∃ earlier turn stop, turns = earlier ++ [turn] ∧ turn.outcome = ran ∧ ran.1 = .error stop)

theorem World.Enrols.fires {world : World Memory} {roster : Roster} (enrols : world.Enrols roster)
    (depth : Nat) (event : HostEvent) :
    world.Fires depth event (roster.live.filter (·.kind = event.kind)) := by
  obtain ⟨turns, taken⟩ := Action.handAll_turns (callWithin depth)
    (Action.disconnect (callWithin depth)) (world.state.host.registry.listenersOf event.kind) event
    (world.alter (·.note (.fired event)))
  have calls := taken.calls_code fun listener member =>
    enrols.coded listener (List.mem_of_mem_filter member)
  obtain ⟨found, answers⟩ := taken.threaded calls
  rw [← enrols.follows.listeners]
  refine ⟨turns, taken, calls, found, ?_⟩
  cases ended : ((perform (callWithin depth) (.fire event)).on world).1 with
  | ok answer => exact .inl ⟨taken.listeners_eq.2 answer ended, congrArg _ (answers answer ended)⟩
  | error stop =>
    obtain ⟨earlier, turn, last, same⟩ := taken.stopped_by ended
    exact .inr ⟨earlier, turn, stop, last, same, rfl⟩

/-! ## The roster is kept -/

/-- What a host makes of its listeners once some things have been asked of it. -/
structure World.KeepsRoster (world : World Memory) (asked : List Request) : Prop where
  /-- The listeners are the registrations that were accepted and not removed, in order. -/
  listeners : world.state.host.registry.listeners = (Roster.after asked).live
  /-- No two registrations have got one number, those removed since included. -/
  distinct : ((Roster.after asked).made.map (·.id)).Nodup
  /-- Unless the host was shut down it takes a listener, under a number never given before. -/
  accepts (call : Caller Memory) (owner : String) (kind : HostEventKind) (code : CodeId) :
    .shutdown ∉ asked → ∃ id after,
      (perform call (.listen owner kind code)).on world = (.ok (.ok id), after) ∧
      id ∉ (Roster.after asked).made.map (·.id) ∧
      after.state.host.registry.listeners =
        world.state.host.registry.listeners ++ [⟨id, owner, kind, .code code⟩]
  /-- Once it was shut down it refuses every listener, and nothing changes. -/
  refuses (call : Caller Memory) (owner : String) (kind : HostEventKind) (code : CodeId) :
    .shutdown ∈ asked →
      (perform call (.listen owner kind code)).on world =
        (.ok (.error (.closed world.state.host.name)), world)
  /-- A number is found if there is a listener of it, which alone is removed. -/
  removes (call : Caller Memory) (id : ListenerId) :
    (∃ front listener back, listener.id = id ∧
      world.state.host.registry.listeners = front ++ listener :: back ∧
      (perform call (.unlisten id)).on world = (.ok true, world.relist (front ++ back))) ∨
    ((∀ listener ∈ world.state.host.registry.listeners, listener.id ≠ id) ∧
      (perform call (.unlisten id)).on world = (.ok false, world))
  /-- An owner's listeners are removed and counted, and no others. -/
  removesOwner (call : Caller Memory) (owner : String) :
    (perform call (.unlistenOwner owner)).on world =
      (.ok (world.state.host.registry.listeners.filter (·.owner = owner)).length,
        world.relist (world.state.host.registry.listeners.filter (·.owner ≠ owner)))
  /-- An event is handed to those who are registered and hear its kind, and to nobody else. -/
  fires (depth : Nat) (event : HostEvent) :
    world.Fires depth event ((Roster.after asked).live.filter (·.kind = event.kind))

theorem World.Enrols.keepsRoster {world : World Memory} {asked : List Request}
    (enrols : world.Enrols (Roster.after asked)) : world.KeepsRoster asked where
  listeners := enrols.follows.listeners
  distinct := enrols.sound.distinct
  accepts call owner kind code running := by
    have accepts : world.state.host.closed = false := by
      rwa [enrols.follows.closed, ← Bool.not_eq_true, Roster.closed_after]
    exact ⟨_, _, on_listen_open call world accepts owner kind code,
      enrols.follows.next ▸ enrols.sound.nextId_fresh, rfl⟩
  refuses call owner kind code ended := by
    have shut : world.state.host.closed = true := by
      rwa [enrols.follows.closed, Roster.closed_after]
    exact on_listen_closed call world shut owner kind code
  removes call id := by
    rw [on_unlisten]
    by_cases there : ∃ listener ∈ world.state.host.registry.listeners, listener.id = id
    · obtain ⟨listener, member, rfl⟩ := there
      obtain ⟨front, back, split⟩ := List.append_of_mem member
      have distinct := enrols.sound.distinct_live
      rw [← enrols.follows.listeners, split] at distinct
      refine .inl ⟨front, listener, back, rfl, split, ?_⟩
      rw [split, filter_number_ne _ distinct]
      simp
    · have absent : ∀ listener ∈ world.state.host.registry.listeners, listener.id ≠ id :=
        fun listener member same => there ⟨listener, member, same⟩
      refine .inr ⟨absent, ?_⟩
      rw [List.any_eq_false.mpr (by simpa using absent),
        List.filter_eq_self.mpr (by simpa using absent)]
      rfl
  removesOwner call owner := on_unlistenOwner call world owner
  fires := enrols.fires

/-- Programs are run one after another in a world whose host is new, by which listeners are
registered, removed and called, and which register and remove listeners, shut the host down and
have further events fired in turn, however deep. At every moment at which something is asked,
and in the end, the host has kept the roster of all that was asked before, in the middle of a
firing as well, and whether or not a program or a listener has panicked. -/
theorem listeners_keep_roster (depth : Nat) (world : World Memory)
    (programs : List (Program Memory .main)) (new : world.state.host.Follows .empty)
    (shelf : world.Heeds Request.OfListeners)
    (works : ∀ program ∈ programs, program.Heeds Request.OfListeners none) :
    let moments := world.moments depth programs
    (∀ earlier moment later, moments = earlier ++ moment :: later →
      moment.world.KeepsRoster (earlier.map (·.request))) ∧
    (world.runAll depth programs).KeepsRoster (moments.map (·.request)) := by
  intro moments
  have enrols : world.Enrols .empty := ⟨.empty, new, shelf⟩
  obtain ⟨recounts, ends⟩ := enrols.covers depth works
  refine ⟨fun earlier moment later split => ?_, ends.keepsRoster⟩
  have split : world.moments depth programs = earlier ++ moment :: later := split
  rw [split] at recounts
  exact recounts.at.keepsRoster

/-- A listener that covers up what is said, has the second listener removed, a late one
registered and a join fired, and shuts the host down. -/
def censor : Code Unit :=
  .hostListener (.edit (.message "***") fun _ => .ask (.unlisten 2) fun _ =>
    .ask (.listen "late" .chat 1) fun _ => .ask (.fire (.join 0)) fun _ =>
      .ask .shutdown fun _ => .finish ())

/-- One that holds back what is said, and panics when somebody joins. -/
def grouch : Code Unit :=
  .hostListener (.observe fun
    | .chat .. => .edit (.cancelled true) fun _ => .finish ()
    | _ => .panic (.text "not again"))

def censored : Program Unit .main :=
  .define censor fun first => .define grouch fun second =>
    .ask (.listen "host" .chat first) fun _ => .ask (.listen "guest" .chat second) fun _ =>
      .ask (.fire (.chat 0 "hi" false)) fun _ => .finish ()

/-- Somebody else is refused, the guest has no listeners left, and a join would do no harm. -/
def aftermath : Program Unit .main :=
  .ask (.listen "guest" .join 1) fun _ => .ask (.unlistenOwner "guest") fun _ =>
    .ask (.fire (.join 0)) fun _ => .finish ()

def bazaar : World Unit := .initial .server ⟨.empty, [], "/", "/"⟩ ()

theorem bazaar_keeps_roster :
    bazaar.state.host.Follows .empty ∧ bazaar.Heeds Request.OfListeners ∧
      (∀ program ∈ [censored, aftermath], program.Heeds Request.OfListeners none) ∧
      let later := bazaar.runAll 3 [censored, aftermath]
      later.state.host.registry.listeners.map (·.id) = [1, 3] ∧
        (perform (callWithin 3) (.listen "guest" .join 1)).on later =
          (.ok (.error (.closed "MemoryServer")), later) := by
  have first (role : Role) (input : role.Input) :
      (censor role input).Heeds Request.OfListeners none := by
    cases role with
    | hearHost => simp [censor, Code.hostListener, Program.Heeds, Request.OfListeners]
    | _ => trivial
  have second (role : Role) (input : role.Input) :
      (grouch role input).Heeds Request.OfListeners none := by
    cases role with
    | hearHost =>
      intro event
      cases event with
      | chat player message cancelled => exact fun _ => trivial
      | _ => trivial
    | _ => trivial
  have works : ∀ program ∈ [censored, aftermath], program.Heeds Request.OfListeners none := by
    simp [censored, aftermath, Program.Heeds, Request.OfListeners, first, second]
  have new : bazaar.state.host.Follows .empty := Host.follows_empty .server
  have shelf : bazaar.Heeds Request.OfListeners := fun code defined => nomatch defined
  obtain ⟨-, ends⟩ := listeners_keep_roster 3 bazaar [censored, aftermath] new shelf works
  refine ⟨new, shelf, works, ?_, ?_⟩
  · rw [ends.listeners]
    decide +kernel
  · have named : (bazaar.runAll 3 [censored, aftermath]).state.host.name = "MemoryServer" := by
      decide +kernel
    have shut : (Roster.after ((bazaar.moments 3 [censored, aftermath]).map
        (·.request))).closed = true := by decide +kernel
    rw [← named]
    exact ends.refuses _ "guest" .join 1 ((Roster.closed_after _).mp shut)

/-- The listener that was removed in the middle of the firing has had its turn, and the one
that was registered has not. -/
example :
    ((bazaar.runAll 3 [censored]).state.host.registry.listeners.map (·.id) = [1, 3]) ∧
      (bazaar.runAll 3 [censored]).state.history.filterMap (fun
        | .called code .hearHost _ => some code
        | _ => none) = [0, 1] := by
  decide +kernel

end PluginBridge
