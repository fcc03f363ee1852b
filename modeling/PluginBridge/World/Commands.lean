import PluginBridge.Arguments
import PluginBridge.World.Delivery

/-! Running and completing commands. The first sub-command that answers to the
first argument decides; without one the command itself runs. A sender who lacks
a permission is told so and nothing runs, while completion keeps silent about
what the sender may not use. -/
namespace PluginBridge.Action
open Host (Sender)
variable {Memory : Type} (call : Caller Memory)

def tell (user : ChatUser) (message : String) : Action Memory Unit :=
  updateHost (·.tell user message)

/-- Whether the user holds all permissions. The first that is missing is denied. -/
def checkAll (user : ChatUser) : List Permission → Action Memory Bool
  | [] => return true
  | permission :: rest => do
    if ← see (·.host.hasPermission user permission.node) then checkAll user rest
    else
      tell user permission.denial
      return false

/-- Runs a handler. When it fails, that is logged and the sender is told. -/
def runHandler (handler : CodeId) (invocation : Invocation) (title : String)
    (names : List (String × Value)) : Action Memory Unit := do
  match (← demand call handler .handle invocation ()).1 with
  | .ok () => pure ()
  | .error message =>
    let sender ← see (·.userName invocation.sender)
    log (.warn title (names ++ [("sender", .text sender), ("error", .text message)]))
    tell invocation.sender Command.errorMessage

/-- Runs the sub-command that answers to a label, if the sender may, and tells
whether the command itself has to run because none does. -/
def runSubCommand (command : Command) (invocation : Invocation) (label : String) :
    Action Memory Bool := do
  match command.subCommand? label with
  | none => return true
  | some sub =>
    if ← checkAll invocation.sender (command.permission.toList ++ sub.permission.toList) then
      runHandler call sub.handler invocation "Sub-command failed"
        [("command", .text command.name), ("sub_command", .text sub.name)]
    return false

/-- Runs the command itself, if the sender may. -/
def runBase (command : Command) (invocation : Invocation) : Action Memory Unit := do
  if ← checkAll invocation.sender command.permission.toList then
    runHandler call command.handler invocation "Command failed" [("command", .text command.name)]

/-- Runs a command on the text of its arguments. A panic ends here. -/
def invoke (command : Command) (user : ChatUser) (text : String) : Action Memory Unit := do
  let arguments := Arguments.split text
  let outcome ← caught do
    let fallsBack ← match arguments with
      | [] => pure true
      | label :: rest => runSubCommand call command ⟨user, rest, command.name⟩ label
    if fallsBack then
      runBase call command ⟨user, arguments, command.name⟩
  match outcome with
  | .ok () => pure ()
  | .error _ =>
    let sender ← see (·.userName user)
    log (.error "Command panicked" [("command", .text command.name), ("sender", .text sender)])
    tell user Command.errorMessage

/-- The names of the sub-commands that the sender may use and that begin as
typed. -/
def subCommandNames (host : Host) (command : Command) (user : ChatUser) (typed : String) :
    List String :=
  ((command.subCommands.filter fun sub => host.permits user sub.permission).filter
    fun sub => Text.completes typed sub.name).map (·.name)

/-- Completes in the standard way: the first argument with the names of
sub-commands, the others with the completer of a sub-command. -/
def completeStandard (command : Command) (invocation : Invocation) :
    Action Memory (List String) := do
  let host ← see (·.host)
  let user := invocation.sender
  if !host.permits user command.permission then return []
  match invocation.arguments with
  | [] => return subCommandNames host command user ""
  | [typed] => return subCommandNames host command user typed
  | label :: rest =>
    let chosen := command.subCommands.find? fun sub =>
      sub.answersTo label && host.permits user sub.permission
    match chosen.bind (·.completer) with
    | none => return []
    | some code =>
      return (← demand call code .complete { invocation with arguments := rest } ()).1

def completeArguments (command : Command) (invocation : Invocation) :
    Action Memory (List String) :=
  match command.completer with
  | some code => do return (← demand call code .complete invocation ()).1
  | none => completeStandard call command invocation

/-- Completes the text of a command's arguments. A panic ends here. -/
def complete (command : Command) (user : ChatUser) (text : String) :
    Action Memory (List String) := do
  let words := Arguments.splitForCompletion text
  match ← caught (completeArguments call command ⟨user, words, command.name⟩) with
  | .ok suggestions => return suggestions
  | .error _ =>
    let sender ← see (·.userName user)
    log (.error "Tab completion panicked"
      [("command", .text command.name), ("sender", .text sender)])
    return []

/-- Lets a command of the host run. -/
def executeOn (executor : Host.Executor) (line : Line) : Action Memory Bool :=
  match executor with
  | .code id => do return (← demand call id .execute line ()).1
  | .adapter id command => do
    invoke call command ((← see (·.adapter id)).wrap line.sender) line.text
    return true

/-- Lets a command of the host complete. -/
def suggestOn (executor : Host.Executor) (line : Line) : Action Memory (List String) :=
  match executor with
  | .code id => do return (← demand call id .suggest line ()).1
  | .adapter id command => do
    complete call command ((← see (·.adapter id)).wrap line.sender) line.text

/-- Runs a command line, if a command answers to its label. -/
def runLine (sender : Sender) (line : String) : Action Memory (Option Bool) := do
  let (label, text) := Host.splitLine line
  match ← see (·.host.registry.command? label) with
  | none => return none
  | some command => return some (← executeOn call command.executor ⟨sender, text.getD ""⟩)

/-- Completes a command line. A label that is still being typed is not
completed. -/
def suggestLine (sender : Sender) (line : String) : Action Memory (List String) := do
  match Host.splitLine line with
  | (_, none) => return []
  | (label, some text) =>
    match ← see (·.host.registry.command? label) with
    | none => return []
    | some command => suggestOn call command.executor ⟨sender, text⟩

end PluginBridge.Action
