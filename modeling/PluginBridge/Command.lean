import PluginBridge.EventBus
import PluginBridge.Text.Label
import PluginBridge.Text.Quoted

/-! Commands that plugins offer: a name, aliases, a permission and sub-commands.
Who runs a command is either a player or the console, which has a name but may
do everything. -/
namespace PluginBridge
open Text

/-- Someone who can be written to: what plugins see of a sender. -/
inductive ChatUser where
  | console (name : String)
  | player (id : Host.PlayerId)
deriving DecidableEq, Repr

structure Permission where
  node : String
  /-- What those who lack it are told. -/
  message : Option String
deriving DecidableEq, Repr

namespace Permission

def standardDenial : String := "You do not have permission to use this command."

def denial (permission : Permission) : String :=
  permission.message.getD standardDenial

/-- The permission as diagnostics show it. -/
def diagnostic (permission : Permission) : String :=
  "Permission \x7b node: " ++ quoted permission.node ++ ", message: " ++
    quotedOption permission.message ++ " \x7d"

end Permission

structure SubCommand where
  name : String
  aliases : List String
  permission : Option Permission
  handler : CodeId
  completer : Option CodeId
deriving DecidableEq, Repr

namespace SubCommand

def answersTo (sub : SubCommand) (label : String) : Bool :=
  answers sub.name sub.aliases label

/-- The sub-command as diagnostics show it. -/
def diagnostic (sub : SubCommand) : String :=
  "SubCommand \x7b name: " ++ quoted sub.name ++ ", aliases: " ++ quotedList sub.aliases ++
    ", permission: " ++
    ((sub.permission.map fun permission => "Some(" ++ permission.diagnostic ++ ")").getD "None") ++
    ", .. \x7d"

end SubCommand

structure Command where
  name : String
  aliases : List String
  description : Option String
  usage : Option String
  permission : Option Permission
  subCommands : List SubCommand
  /-- Runs when no sub-command does. -/
  handler : CodeId
  /-- Completes in place of the standard completion. -/
  completer : Option CodeId
deriving DecidableEq, Repr

namespace Command

/-- What a sender is told of a command that went wrong. -/
def errorMessage : String := "An internal error occurred while executing this command."

/-- The first sub-command that answers to a label. -/
def subCommand? (command : Command) (label : String) : Option SubCommand :=
  command.subCommands.find? (·.answersTo label)

/-- The command, as it is registered with a host, as diagnostics show it. -/
def diagnostic (command : Command) : String :=
  "CommandAdapter \x7b command: " ++ quoted command.name ++ " \x7d"

end Command

/-- What a handler or a completer is given. -/
structure Invocation where
  sender : ChatUser
  arguments : List String
  /-- The name of the command. -/
  command : String
deriving DecidableEq, Repr

/-- The invocation by a sender of some name, as diagnostics show it. -/
def Invocation.diagnostic (invocation : Invocation) (sender : String) : String :=
  "Context \x7b sender: " ++ quoted sender ++ ", args: " ++ quotedList invocation.arguments ++
    ", command: " ++ quoted invocation.command ++ " \x7d"

end PluginBridge
