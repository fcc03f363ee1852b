import PluginBridge.World.Interpreter

/-! Actions and programs as functions on worlds. The equations say what each part
of an action does to a world and how it ends, so that later proofs need not look
inside the monad. The deeds of a program are what a run of it does, in order,
which is what laws about the code of plugins speak of. -/
namespace PluginBridge
variable {Memory α β : Type}

/-- A world whose state is changed. -/
def World.alter (world : World Memory) (change : State → State) : World Memory :=
  { world with state := change world.state }

@[simp] theorem World.state_alter (world : World Memory) (change : State → State) :
    (world.alter change).state = change world.state := rfl

@[simp] theorem World.shelf_alter (world : World Memory) (change : State → State) :
    (world.alter change).shelf = world.shelf := rfl

/-- How a call ends for those who catch its panic. -/
def Called.caught {role : Role} (called : Called role) :
    Except Stop (Except Payload role.Result × role.Subject) :=
  match called.ending with
  | .ok result => .ok (.ok result, called.subject)
  | .error (.panic payload) => .ok (.error payload, called.subject)
  | .error .tooDeep => .error .tooDeep
  | .error .undefined => .error .undefined

theorem Called.caught_ok {role : Role} {called : Called role} {ended : Except Payload role.Result}
    {left : role.Subject} (caught : called.caught = .ok (ended, left)) :
    called.ending = ended.mapError .panic ∧ called.subject = left := by
  rcases called with ⟨(_ | _ | _) | _, subject⟩ <;> cases caught <;> exact ⟨rfl, rfl⟩

theorem Called.caught_of_ok {role : Role} {called : Called role} {result : role.Result}
    (ended : called.ending = .ok result) : called.caught = .ok (.ok result, called.subject) := by
  rw [caught, ended]

theorem Called.caught_calm {role : Role} (called : Called role) (payload : Payload) :
    called.caught ≠ .error (.panic payload) := by
  rcases called with ⟨(_ | _ | _) | _, subject⟩ <;> exact nofun

/-- How an action ends on a world, and the world it leaves. -/
def Action.on (action : Action Memory α) (world : World Memory) :
    Except Stop α × World Memory :=
  action.run.run world

namespace Action

@[simp] theorem on_pure (answer : α) (world : World Memory) :
    (pure answer : Action Memory α).on world = (.ok answer, world) := rfl

theorem on_bind (action : Action Memory α) (next : α → Action Memory β) (world : World Memory) :
    (action >>= next).on world =
      match action.on world with
      | (.ok answer, between) => (next answer).on between
      | (.error stop, between) => (.error stop, between) := by
  simp only [on, ExceptT.run_bind, StateT.run_bind]
  cases ran : StateT.run (ExceptT.run action) world with
  | mk ending between => cases ending <;> rfl

theorem on_bind_ok {action : Action Memory α} {next : α → Action Memory β}
    {world between : World Memory} {answer : α} (ran : action.on world = (.ok answer, between)) :
    (action >>= next).on world = (next answer).on between := by
  rw [on_bind, ran]

theorem on_bind_error {action : Action Memory α} {next : α → Action Memory β}
    {world between : World Memory} {stop : Stop} (ran : action.on world = (.error stop, between)) :
    (action >>= next).on world = (.error stop, between) := by
  rw [on_bind, ran]

/-- An action that has returned went on from where the one before it returned. -/
theorem ok_of_bind {action : Action Memory α} {next : α → Action Memory β}
    {world after : World Memory} {answer : β}
    (ran : (action >>= next).on world = (.ok answer, after)) :
    ∃ middle between, action.on world = (.ok middle, between) ∧
      (next middle).on between = (.ok answer, after) := by
  rw [on_bind] at ran
  rcases acted : action.on world with ⟨stop | middle, between⟩
  · rw [acted] at ran
    cases ran
  · rw [acted] at ran
    exact ⟨middle, between, rfl, ran⟩

theorem error_of_bind {action : Action Memory α} {next : α → Action Memory β}
    {world : World Memory} {stop : Stop} (failed : ((action >>= next).on world).1 = .error stop) :
    (action.on world).1 = .error stop ∨ ∃ answer between,
      action.on world = (.ok answer, between) ∧ ((next answer).on between).1 = .error stop := by
  rw [on_bind] at failed
  rcases acted : action.on world with ⟨early | answer, between⟩
  · rw [acted] at failed
    exact .inl (congrArg _ (Except.error.inj failed))
  · rw [acted] at failed
    exact .inr ⟨answer, between, rfl, failed⟩

@[simp] theorem on_see (view : State → α) (world : World Memory) :
    (see view).on world = (.ok (view world.state), world) := rfl

@[simp] theorem on_update (change : State → State) (world : World Memory) :
    (update change).on world = (.ok (), world.alter change) := rfl

@[simp] theorem on_answer (change : State → State × α) (world : World Memory) :
    (answer change).on world =
      (.ok (change world.state).2, world.alter fun state => (change state).1) := rfl

@[simp] theorem on_log (record : Log.Record) (world : World Memory) :
    (log record).on world = (.ok (), world.alter (·.log record)) := rfl

@[simp] theorem on_note (happening : Happening) (world : World Memory) :
    (note happening).on world = (.ok (), world.alter (·.note happening)) := rfl

@[simp] theorem on_lift (computation : StateM (World Memory) α) (world : World Memory) :
    (liftM computation : Action Memory α).on world =
      (.ok (computation.run world).1, (computation.run world).2) := rfl

theorem on_caught (action : Action Memory α) (world : World Memory) :
    (caught action).on world =
      match action.on world with
      | (.ok result, after) => (.ok (.ok result), after)
      | (.error (.panic payload), after) => (.ok (.error payload), after)
      | (.error .tooDeep, after) => (.error .tooDeep, after)
      | (.error .undefined, after) => (.error .undefined, after) := by
  simp only [on, caught, ExceptT.run_mk, StateT.run_bind]
  rcases StateT.run (ExceptT.run action) world with ⟨(_ | _ | _) | _, after⟩ <;> rfl

/-- Calling code and catching its panic: only the limits of the world get through. -/
theorem on_attempt (call : Caller Memory) (code : CodeId) (role : Role) (input : role.Input)
    (subject : role.Subject) (world : World Memory) :
    (attempt call code role input subject).on world =
      match (call code role input subject).run (world.alter (·.note (.called code role input))) with
      | (⟨.ok result, left⟩, after) => (.ok (.ok result, left), after)
      | (⟨.error (.panic payload), left⟩, after) => (.ok (.error payload, left), after)
      | (⟨.error .tooDeep, _⟩, after) => (.error .tooDeep, after)
      | (⟨.error .undefined, _⟩, after) => (.error .undefined, after) := by
  unfold attempt
  rw [on_bind_ok (on_note _ _), on_bind_ok (on_lift _ _)]
  rcases (call code role input subject).run _ with ⟨⟨ending, left⟩, after⟩
  rcases ending with (_ | _ | _) | _ <;> rfl

theorem on_attempt_caught (call : Caller Memory) (code : CodeId) (role : Role) (input : role.Input)
    (subject : role.Subject) (world : World Memory) :
    let ran := (call code role input subject).run (world.alter (·.note (.called code role input)))
    (attempt call code role input subject).on world = (ran.1.caught, ran.2) := by
  rw [on_attempt]
  rcases (call code role input subject).run _ with ⟨⟨(_ | _ | _) | _, left⟩, after⟩ <;> rfl

/-- Calling code and passing its panic on. -/
theorem on_demand (call : Caller Memory) (code : CodeId) (role : Role) (input : role.Input)
    (subject : role.Subject) (world : World Memory) :
    (demand call code role input subject).on world =
      match (call code role input subject).run (world.alter (·.note (.called code role input))) with
      | (⟨.ok result, left⟩, after) => (.ok (result, left), after)
      | (⟨.error stop, _⟩, after) => (.error stop, after) := by
  unfold demand
  rw [on_bind, on_attempt]
  rcases (call code role input subject).run (world.alter (·.note (.called code role input))) with
    ⟨⟨(_ | _ | _) | _, left⟩, after⟩ <;> rfl

end Action

/-- A thing that a run of a program does to its subject or to the world. -/
inductive Deed (role : Role) where
  | edited (change : role.Change)
  | asked (request : Request)

namespace Deed
variable {role : Role}

def change? : Deed role → Option role.Change
  | .edited change => some change
  | .asked _ => none

def request? : Deed role → Option Request
  | .edited _ => none
  | .asked request => some request

end Deed

/-- A subject after an edit, which leaves it alone if it is refused. -/
def Role.amend (role : Role) (subject : role.Subject) (change : role.Change) : role.Subject :=
  match role.apply change subject with
  | .ok edited => edited
  | .error _ => subject

namespace Program
variable {role : Role}

/-- What a run of a program does, in order, until it ends or is stopped. -/
def deeds (call : Caller Memory) :
    Program Memory role → role.Subject → World Memory → List (Deed role)
  | .finish _, _, _ => []
  | .panic _, _, _ => []
  | .recollect next, subject, world => (next world.memory).deeds call subject world
  | .remember change next, subject, world =>
    next.deeds call subject { world with memory := change world.memory }
  | .observe next, subject, world => (next subject).deeds call subject world
  | .edit change next, subject, world =>
    .edited change ::
      match role.apply change subject with
      | .ok edited => (next (.ok ())).deeds call edited world
      | .error failure => (next (.error failure)).deeds call subject world
  | .define code next, subject, world =>
    (next world.shelf.length).deeds call subject { world with shelf := world.shelf ++ [code] }
  | .ask request next, subject, world =>
    .asked request ::
      match (perform call request).on world with
      | (.ok reply, after) => (next reply).deeds call subject after
      | (.error _, _) => []

def edits (call : Caller Memory) (program : Program Memory role) (subject : role.Subject)
    (world : World Memory) : List role.Change :=
  (program.deeds call subject world).filterMap Deed.change?

def requests (call : Caller Memory) (program : Program Memory role) (subject : role.Subject)
    (world : World Memory) : List Request :=
  (program.deeds call subject world).filterMap Deed.request?

/-- What asking the world for one thing comes to. -/
theorem run_ask (call : Caller Memory) (request : Request)
    (next : request.Reply → Program Memory role) (subject : role.Subject) (world : World Memory) :
    ((Program.ask request next).run call subject).run world =
      match (perform call request).on world with
      | (.ok reply, after) => ((next reply).run call subject).run after
      | (.error stop, after) => (⟨.error stop, subject⟩, after) := by
  simp only [run, StateT.run_bind]
  change _ = match StateT.run (ExceptT.run (perform call request)) world with
    | (.ok reply, after) => ((next reply).run call subject).run after
    | (.error stop, after) => (⟨.error stop, subject⟩, after)
  cases ran : StateT.run (ExceptT.run (perform call request)) world with
  | mk ending after => cases ending <;> rfl

/-- However a program ends, its subject keeps all edits that were made: a panic
takes none of them back. -/
theorem run_subject (call : Caller Memory) (program : Program Memory role)
    (subject : role.Subject) (world : World Memory) :
    ((program.run call subject).run world).1.subject =
      (program.edits call subject world).foldl role.amend subject := by
  unfold edits
  induction program generalizing world with
  | finish result => rfl
  | panic payload => rfl
  | recollect next ih => exact ih world.memory subject world
  | remember change next ih => exact ih subject { world with memory := change world.memory }
  | observe next ih => exact ih subject subject world
  | define code next _ ih =>
    exact ih world.shelf.length subject { world with shelf := world.shelf ++ [code] }
  | edit change next ih =>
    simp only [run, deeds, List.filterMap_cons, Deed.change?, List.foldl_cons]
    cases applied : Role.apply _ change subject with
    | ok edited => simpa only [Role.amend, applied] using ih (.ok ()) edited world
    | error failure => simpa only [Role.amend, applied] using ih (.error failure) subject world
  | ask request next ih =>
    simp only [run_ask, deeds, List.filterMap_cons, Deed.change?]
    cases asked : (perform call request).on world with
    | mk ending after =>
      cases ending with
      | ok reply => exact ih reply subject after
      | error stop => rfl

end Program

/-- Calling code means running its program, if there is code of that number. -/
theorem callWithin_succ (depth : Nat) (code : CodeId) (role : Role) (input : role.Input)
    (subject : role.Subject) (world : World Memory) :
    (callWithin (depth + 1) code role input subject).run world =
      match world.shelf[code]? with
      | none => (⟨.error .undefined, subject⟩, world)
      | some code => ((code role input).run (callWithin depth) subject).run world := by
  simp only [callWithin, StateT.run_bind]
  change StateT.run (match world.shelf[code]? with
    | none => return ⟨.error .undefined, subject⟩
    | some code => (code role input).run (callWithin depth) subject) world = _
  cases world.shelf[code]? <;> rfl

end PluginBridge
