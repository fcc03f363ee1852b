import PluginBridge.World.Commands
import PluginBridge.World.Players
import PluginBridge.World.Lifecycle

/-! Running programs. A request is granted by the action of its name; code is
called by running its program in turn, as deep as a limit on nested calls
allows. The limit is the only reason why running a program may be cut short. -/
namespace PluginBridge
variable {Memory : Type}

/-- Grants a request. -/
def perform (call : Caller Memory) : (request : Request) → Action Memory request.Reply
  | .look => Action.see id
  | .log record => Action.log record
  | .join name => Action.join call name
  | .chat player message => Action.chat call player message
  | .quit player => Action.quit call player
  | .disconnect player reason => Action.disconnect call player reason
  | .kick player reason => Action.kick call player reason
  | .drop player reason => Action.drop player reason
  | .switch player server => Action.switch call player server
  | .connect player server => Action.connect call player server
  | .setPermission player node held =>
    Action.updateHost (·.updatePlayer player (·.setPermission node held))
  | .tell user message => Action.tell user message
  | .addServer name address => Action.answerHost (·.addServer name address)
  | .sendData server channel data => Action.updateHost (·.sendData server channel data)
  | .shutdown => Action.updateHost fun host => { host with closed := true }
  | .listen owner kind code => Action.tryHost (·.addListener owner kind (.code code))
  | .unlisten listener => Action.answerHost (·.removeListener listener)
  | .unlistenOwner owner => Action.answerHost (·.removeListenersOf owner)
  | .fire event => Action.fire call event
  | .offer owner name aliases code =>
    Action.tryHost (·.addCommand ⟨owner, name, aliases, .code code⟩)
  | .withdraw name => Action.answerHost (·.removeCommand name)
  | .runLine sender line => Action.runLine call sender line
  | .suggestLine sender line => Action.suggestLine call sender line
  | .newAdapter platform consoleName logEvents =>
    Action.answer (·.addAdapter (.detached platform consoleName logEvents))
  | .attach adapter => Action.answer (·.attach adapter)
  | .detach adapter => Action.update (·.detach adapter)
  | .bridge adapter source unified => Action.bridge call adapter source unified
  | .subscribe adapter kind owner priority code =>
    Action.answer (·.subscribe adapter kind owner priority code)
  | .unsubscribe adapter subscription => Action.answer (·.unsubscribe adapter subscription)
  | .unsubscribeOwner adapter owner => Action.answer (·.unsubscribeOwner adapter owner)
  | .dispatch adapter event => Action.dispatch call adapter event
  | .present code event => Action.demand call code .hear () event
  | .obey event => Action.obey call event
  | .runSubCommand command invocation label => Action.runSubCommand call command invocation label
  | .runBase command invocation => Action.runBase call command invocation
  | .completeArguments command invocation => Action.completeArguments call command invocation
  | .invoke command user text => Action.invoke call command user text
  | .complete command user text => Action.complete call command user text
  | .register adapter command => Action.answer (·.register adapter command)
  | .unregister adapter name => Action.answer (·.unregister adapter name)
  | .unregisterAll adapter => Action.answer (·.unregisterAll adapter)
  | .load order => Action.load call order
  | .enable core => Action.enable call core
  | .disable core => Action.disable call core
  | .newEntry data code dataFolder =>
    Action.answer (·.addEntry ⟨data, code, dataFolder, false, none⟩)
  | .enableEntry entry => Action.enableEntry call entry
  | .disableEntry entry => Action.disableEntry call entry

/-- Runs a program on its subject. -/
def Program.run (call : Caller Memory) {role : Role} :
    Program Memory role → role.Subject → StateM (World Memory) (Called role)
  | .finish result, subject => return ⟨.ok result, subject⟩
  | .panic payload, subject => return ⟨.error (.panic payload), subject⟩
  | .recollect next, subject => do (next (← get).memory).run call subject
  | .remember change next, subject => do
    modify fun world => { world with memory := change world.memory }
    next.run call subject
  | .observe next, subject => (next subject).run call subject
  | .edit change next, subject =>
    match role.apply change subject with
    | .ok edited => (next (.ok ())).run call edited
    | .error failure => (next (.error failure)).run call subject
  | .define code next, subject => do
    let id := (← get).shelf.length
    modify fun world => { world with shelf := world.shelf ++ [code] }
    (next id).run call subject
  | .ask request next, subject => do
    match ← (perform call request).run with
    | .ok reply => (next reply).run call subject
    | .error stop => return ⟨.error stop, subject⟩

/-- Calls code with so many calls nested in it at most. -/
def callWithin : Nat → Caller Memory
  | 0 => fun _ _ _ subject => return ⟨.error .tooDeep, subject⟩
  | depth + 1 => fun code role input subject => do
    match (← get).shelf[code]? with
    | none => return ⟨.error .undefined, subject⟩
    | some code => (code role input).run (callWithin depth) subject

namespace World

/-- A world in which nothing has happened yet. -/
def initial (kind : Host.Kind) (surroundings : Surroundings) (memory : Memory) : World Memory :=
  ⟨.initial kind surroundings, memory, []⟩

/-- Runs a program that nobody called. -/
def run (world : World Memory) (depth : Nat) (program : Program Memory .main) :
    Except Stop Unit × World Memory :=
  let (called, world) := (program.run (callWithin depth) ()).run world
  (called.ending, world)

end World
end PluginBridge
