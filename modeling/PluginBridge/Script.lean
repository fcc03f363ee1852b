import PluginBridge.Program

/-! Scripts are parts of programs: a script answers with a value, and the program
goes on with it. A script may also end the program, by finishing it or by a
panic. -/
namespace PluginBridge
open Plugin

def Script (Memory : Type) (role : Role) (α : Type) : Type :=
  (α → Program Memory role) → Program Memory role

namespace Script
variable {Memory : Type} {role : Role}

instance : Monad (Script Memory role) where
  pure answer := fun next => next answer
  bind script rest := fun next => script fun answer => rest answer next

instance : LawfulMonad (Script Memory role) :=
  LawfulMonad.mk' _ (fun _ => rfl) (fun _ _ => rfl) (fun _ _ _ => rfl)

def ask (request : Request) : Script Memory role request.Reply :=
  fun next => .ask request next

def look : Script Memory role State := ask .look

def recollect : Script Memory role Memory :=
  fun next => .recollect next

def remember (change : Memory → Memory) : Script Memory role Unit :=
  fun next => .remember change (next ())

def observe : Script Memory role role.Subject :=
  fun next => .observe next

def edit (change : role.Change) : Script Memory role (Except EditFailure Unit) :=
  fun next => .edit change next

def define (code : Code Memory) : Script Memory role CodeId :=
  fun next => .define code next

instance {α : Type} : Inhabited (Script Memory role α) :=
  ⟨fun _ => .panic .other⟩

/-- Ends the program with a result. -/
def finish {α : Type} (result : role.Result) : Script Memory role α :=
  fun _ => .finish result

def panic {α : Type} (payload : Payload) : Script Memory role α :=
  fun _ => .panic payload

/-- The program that does nothing but run the script. -/
def program (script : Script Memory role role.Result) : Program Memory role :=
  script .finish

end Script

/-- What code answers when it does nothing. -/
def Role.nothing : (role : Role) → role.Result
  | hear | handle | hook _ => .ok ()
  | complete | suggest => []
  | execute => false
  | hearHost | main => ()

namespace Code
variable {Memory : Type}

/-- Code that does nothing. -/
instance : Inhabited (Code Memory) :=
  ⟨fun role _ => .finish role.nothing⟩

/-- Code that listens to events on a bus. -/
def listener (program : Program Memory .hear) : Code Memory
  | .hear, _ => program
  | role, _ => .finish role.nothing

/-- Code that listens to events of the host. -/
def hostListener (program : Program Memory .hearHost) : Code Memory
  | .hearHost, _ => program
  | role, _ => .finish role.nothing

def handler (program : Invocation → Program Memory .handle) : Code Memory
  | .handle, invocation => program invocation
  | role, _ => .finish role.nothing

def completer (program : Invocation → Program Memory .complete) : Code Memory
  | .complete, invocation => program invocation
  | role, _ => .finish role.nothing

/-- Code of a command that is registered with the host directly. -/
def hostCommand (execute : Line → Program Memory .execute)
    (suggest : Line → Program Memory .suggest) : Code Memory
  | .execute, line => execute line
  | .suggest, line => suggest line
  | role, _ => .finish role.nothing

/-- Code of a plugin. -/
def plugin (program : (moment : Hook) → CoreId → Program Memory (.hook moment)) : Code Memory
  | .hook moment, core => program moment core
  | role, _ => .finish role.nothing

end Code

end PluginBridge
