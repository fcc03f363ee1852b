import PluginBridge.Proofs.State.Isolation
import PluginBridge.Proofs.World.Runs

/-! Code that keeps to the context of its plugin. All it asks for is to look, to log,
to tell somebody something, and to register and remove listeners and commands of its
own. Such code always comes to an end of its own, and makes no changes but its own. -/
namespace PluginBridge
variable {Memory : Type} {adapter : AdapterId} {owner : String}

/-- The requests that a plugin's context grants. -/
def Request.InContext (adapter : AdapterId) (owner : String) : Request → Bool
  | .look | .log _ | .tell .. => true
  | .subscribe id _ name _ _ | .unsubscribeOwner id name => id = adapter && name = owner
  | .register id _ | .unregister id _ | .unregisterAll id => id = adapter
  | _ => false

/-- A request in context is granted, whatever way code is called, and comes to the
plugin's own changes. -/
theorem perform_inContext (call : Caller Memory) {request : Request}
    (within : request.InContext adapter owner = true) (world : World Memory) :
    ∃ reply after, (perform call request).on world = (.ok reply, after) ∧
      world.state.ReachesBy (Change.OwnTo adapter owner) after.state ∧
      after.shelf = world.shelf := by
  cases request with
  | look => exact ⟨_, _, rfl, .refl _, rfl⟩
  | log record =>
    exact ⟨_, _, rfl, .one world.state (.log record) trivial, rfl⟩
  | tell user message =>
    exact ⟨_, _, rfl, .one world.state (.tell user message) trivial, rfl⟩
  | subscribe id kind name priority code =>
    obtain ⟨mine, named⟩ : id = adapter ∧ name = owner := by
      simpa [Request.InContext] using within
    exact ⟨_, _, rfl, .one world.state (.subscribe id kind name priority code)
      ⟨mine, named⟩, rfl⟩
  | unsubscribeOwner id name =>
    obtain ⟨mine, named⟩ : id = adapter ∧ name = owner := by
      simpa [Request.InContext] using within
    exact ⟨_, _, rfl, .one world.state (.unsubscribeOwner id name) ⟨mine, named⟩, rfl⟩
  | register id command =>
    have mine : id = adapter := by simpa [Request.InContext] using within
    exact ⟨_, _, rfl, .one world.state (.register id command) mine, rfl⟩
  | unregister id name =>
    have mine : id = adapter := by simpa [Request.InContext] using within
    exact ⟨_, _, rfl, .one world.state (.unregister id name) mine, rfl⟩
  | unregisterAll id =>
    have mine : id = adapter := by simpa [Request.InContext] using within
    exact ⟨_, _, rfl, State.unregisterEach_reaches (fun _ => mine) _ world.state, rfl⟩
  | _ => cases within

/-- A program that asks for nothing outside its context runs to its end, which may
be a panic, and makes its own changes only. -/
theorem Program.run_inContext (call : Caller Memory) {role : Role} (program : Program Memory role)
    (subject : role.Subject) (world : World Memory)
    (within : ∀ request ∈ program.requests call subject world,
      request.InContext adapter owner = true) :
    ∃ ending : Except Payload role.Result, ∃ left after,
      (program.run call subject).run world =
        (⟨ending.mapError Stop.panic, left⟩, after) ∧
      world.state.ReachesBy (Change.OwnTo adapter owner) after.state := by
  unfold requests at within
  induction program generalizing world with
  | finish result => exact ⟨.ok result, subject, world, rfl, .refl _⟩
  | panic payload => exact ⟨.error payload, subject, world, rfl, .refl _⟩
  | recollect next ih => exact ih world.memory subject world within
  | remember change next ih =>
    exact ih subject { world with memory := change world.memory } within
  | observe next ih => exact ih subject subject world within
  | define code next _ ih =>
    exact ih world.shelf.length subject { world with shelf := world.shelf ++ [code] } within
  | edit change next ih =>
    simp only [deeds, List.filterMap_cons, Deed.request?] at within
    simp only [run]
    cases applied : Role.apply _ change subject with
    | ok edited =>
      rw [applied] at within
      exact ih (.ok ()) edited world within
    | error failure =>
      rw [applied] at within
      exact ih (.error failure) subject world within
  | ask request next ih =>
    simp only [deeds, List.filterMap_cons, Deed.request?, List.forall_mem_cons] at within
    obtain ⟨now, later⟩ := within
    obtain ⟨reply, between, granted, first, -⟩ := perform_inContext call now world
    rw [granted] at later
    obtain ⟨ending, left, after, ran, rest⟩ := ih reply subject between later
    refine ⟨ending, left, after, ?_, first.trans rest⟩
    rw [run_ask, granted]
    exact ran

/-- Calling code that keeps to its context succeeds, however the code ends. -/
theorem Action.attempt_inContext (depth : Nat) {code : CodeId} {written : Code Memory}
    (role : Role) (input : role.Input) (subject : role.Subject) (world : World Memory)
    (there : world.shelf[code]? = some written)
    (within : ∀ request ∈ (written role input).requests (callWithin depth) subject
      (world.alter (·.note (.called code role input))), request.InContext adapter owner = true) :
    ∃ ending left after, (attempt (callWithin (depth + 1)) code role input subject).on world =
        (.ok (ending, left), after) ∧
      world.state.ReachesBy (Change.OwnTo adapter owner) after.state := by
  obtain ⟨ending, left, after, ran, reaches⟩ := Program.run_inContext (callWithin depth)
    (written role input) subject _ within
  refine ⟨ending, left, after, ?_, .trans (.one world.state (.note _) trivial) reaches⟩
  rw [on_attempt, callWithin_succ]
  simp only [World.shelf_alter, there]
  rw [ran]
  cases ending <;> rfl

end PluginBridge
