import PluginBridge.Program

/-! The world that programs run in, and actions on it. An action may be stopped
by a panic, which those who call code for others catch; what the action has done
to the world by then stays done. -/
namespace PluginBridge

structure World (Memory : Type) where
  state : State
  memory : Memory
  /-- All code that has been defined. -/
  shelf : List (Code Memory)

/-- Why an action stops before its end. -/
inductive Stop where
  | panic (payload : Payload)
  /-- Calls are nested deeper than the world allows. -/
  | tooDeep
  /-- There is no code of the number called. -/
  | undefined
deriving DecidableEq, Repr

abbrev Action (Memory : Type) := ExceptT Stop (StateM (World Memory))

/-- What a call leaves behind: how it ended, and its subject as it left it. -/
structure Called (role : Role) where
  ending : Except Stop role.Result
  subject : role.Subject

/-- How code is called. What the framework does is defined for every way of
calling, so that its laws hold whatever the code may do. -/
abbrev Caller (Memory : Type) :=
  CodeId → (role : Role) → role.Input → role.Subject → StateM (World Memory) (Called role)

namespace Action
variable {Memory α : Type}

/-- Sees the state as it is now. -/
def see (view : State → α) : Action Memory α := do
  return view (← get).state

def update (change : State → State) : Action Memory Unit :=
  modify fun world => { world with state := change world.state }

/-- Changes the state and answers. -/
def answer (change : State → State × α) : Action Memory α := do
  let (state, reply) := change (← get).state
  set { (← get) with state }
  return reply

def updateHost (change : Host → Host) : Action Memory Unit :=
  update (·.updateHost change)

/-- Changes the host and answers. -/
def answerHost (change : Host → Host × α) : Action Memory α :=
  answer fun state =>
    let (host, reply) := change state.host
    ({ state with host }, reply)

/-- Changes the host unless it refuses. -/
def tryHost {ε : Type} (change : Host → Except ε (Host × α)) : Action Memory (Except ε α) :=
  answer fun state =>
    match change state.host with
    | .ok (host, reply) => ({ state with host }, .ok reply)
    | .error refusal => (state, .error refusal)

def log (record : Log.Record) : Action Memory Unit :=
  update (·.log record)

def note (happening : Happening) : Action Memory Unit :=
  update (·.note happening)

/-- Runs an action and catches its panic. -/
def caught (action : Action Memory α) : Action Memory (Except Payload α) :=
  ExceptT.mk do
    match ← action.run with
    | .ok result => return .ok (.ok result)
    | .error (.panic payload) => return .ok (.error payload)
    | .error stop => return .error stop

/-- Calls code and catches its panic. The subject keeps what was edited before. -/
def attempt (call : Caller Memory) (code : CodeId) (role : Role) (input : role.Input)
    (subject : role.Subject) : Action Memory (Except Payload role.Result × role.Subject) := do
  note (.called code role input)
  let called ← (call code role input subject : StateM (World Memory) (Called role))
  match called.ending with
  | .ok result => return (.ok result, called.subject)
  | .error (.panic payload) => return (.error payload, called.subject)
  | .error stop => throw stop

/-- Calls code and passes its panic on. -/
def demand (call : Caller Memory) (code : CodeId) (role : Role) (input : role.Input)
    (subject : role.Subject) : Action Memory (role.Result × role.Subject) := do
  match ← attempt call code role input subject with
  | (.ok result, subject) => return (result, subject)
  | (.error payload, _) => throw (.panic payload)

end Action
end PluginBridge
