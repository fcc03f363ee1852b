import PluginBridge.Proofs.World.Runs
import PluginBridge.Script

/-! What comes of a command that somebody runs. The words that were typed settle who is to
run, and the permissions of the sender settle whether anybody does: either one handler is
called, once, or one message says what is missing. A handler that fails or panics is logged
and the sender is told, once, and the host is none the wiser. -/
namespace PluginBridge
variable {Memory : Type}

/-! ## Whose turn it is -/

/-- Who is to run on the words that follow a command's label. -/
structure Route where
  handler : CodeId
  /-- The words that the handler is given. -/
  arguments : List String
  /-- What the sender has to be permitted, in the order in which it is asked for. -/
  permissions : List Permission
  /-- What is logged when the handler fails, and of what. -/
  title : String
  names : List (String × Value)

theorem SubCommand.answersTo_iff (sub : SubCommand) (label : String) :
    sub.answersTo label = true ↔
      ∃ known ∈ sub.name :: sub.aliases, Text.fold known = Text.fold label := by
  simp only [answersTo, Text.answers, List.any_eq_true, Text.sameLabel_iff]

namespace Command

/-- The way to a sub-command, which asks for the command's permission before its own. -/
def subRoute (command : Command) (sub : SubCommand) (words : List String) : Route where
  handler := sub.handler
  arguments := words
  permissions := command.permission.toList ++ sub.permission.toList
  title := "Sub-command failed"
  names := [("command", .text command.name), ("sub_command", .text sub.name)]

/-- The way to the command itself. -/
def baseRoute (command : Command) (words : List String) : Route where
  handler := command.handler
  arguments := words
  permissions := command.permission.toList
  title := "Command failed"
  names := [("command", .text command.name)]

/-- The route of some words: to the first sub-command that has the first word among its
labels, in any letter case, with the words after it, or else to the command itself with all
of them. -/
inductive Routes (command : Command) : List String → Route → Prop where
  | sub {before after : List SubCommand} {sub : SubCommand} {label : String} {rest : List String}
      (listed : command.subCommands = before ++ sub :: after)
      (answers : ∃ known ∈ sub.name :: sub.aliases, Text.fold known = Text.fold label)
      (first : ∀ other ∈ before, ∀ known ∈ other.name :: other.aliases,
        Text.fold known ≠ Text.fold label) :
      command.Routes (label :: rest) (command.subRoute sub rest)
  | base {words : List String}
      (nobody : ∀ label ∈ words.head?, ∀ sub ∈ command.subCommands,
        ∀ known ∈ sub.name :: sub.aliases, Text.fold known ≠ Text.fold label) :
      command.Routes words (command.baseRoute words)

theorem subCommand?_eq_some_iff {command : Command} {label : String} {sub : SubCommand} :
    command.subCommand? label = some sub ↔
      (∃ known ∈ sub.name :: sub.aliases, Text.fold known = Text.fold label) ∧
      ∃ before after, command.subCommands = before ++ sub :: after ∧
        ∀ other ∈ before, ∀ known ∈ other.name :: other.aliases,
          Text.fold known ≠ Text.fold label := by
  unfold subCommand?
  simp only [List.find?_eq_some_iff_append, Bool.not_eq_true', ← Bool.not_eq_true,
    SubCommand.answersTo_iff, not_exists, not_and, ne_eq]

theorem subCommand?_eq_none_iff {command : Command} {label : String} :
    command.subCommand? label = none ↔ ∀ sub ∈ command.subCommands,
      ∀ known ∈ sub.name :: sub.aliases, Text.fold known ≠ Text.fold label := by
  unfold subCommand?
  simp only [List.find?_eq_none, SubCommand.answersTo_iff, not_exists, not_and, ne_eq]

/-- All words have a route. -/
theorem exists_route (command : Command) (words : List String) :
    ∃ route, command.Routes words route := by
  cases words with
  | nil => exact ⟨_, .base nofun⟩
  | cons label rest =>
    cases chosen : command.subCommand? label with
    | some sub =>
      obtain ⟨answers, before, after, listed, first⟩ := subCommand?_eq_some_iff.mp chosen
      exact ⟨_, .sub listed answers first⟩
    | none =>
      refine ⟨_, .base fun typed first => ?_⟩
      cases first
      exact subCommand?_eq_none_iff.mp chosen

/-- They have no other. -/
theorem Routes.unique {command : Command} {words : List String} {route other : Route}
    (one : command.Routes words route) (two : command.Routes words other) : route = other := by
  cases one with
  | sub listed answers first =>
    have chosen := subCommand?_eq_some_iff.mpr ⟨answers, _, _, listed, first⟩
    cases two with
    | sub listed answers first =>
      have too := subCommand?_eq_some_iff.mpr ⟨answers, _, _, listed, first⟩
      cases chosen.symm.trans too
      rfl
    | base nobody =>
      cases chosen.symm.trans (subCommand?_eq_none_iff.mpr (nobody _ rfl))
  | base nobody =>
    cases two with
    | sub listed answers first =>
      have too := subCommand?_eq_some_iff.mpr ⟨answers, _, _, listed, first⟩
      cases too.symm.trans (subCommand?_eq_none_iff.mpr (nobody _ rfl))
    | base nobody => rfl

end Command

/-! ## What comes of it -/

/-- A world in which somebody has been sent a message. -/
def World.telling (world : World Memory) (user : ChatUser) (message : String) : World Memory :=
  world.alter (·.updateHost (·.tell user message))

/-- What the handler of a route is called with, and in which world. -/
def Route.invocation (route : Route) (command : Command) (user : ChatUser) : Invocation :=
  ⟨user, route.arguments, command.name⟩

section
variable (call : Caller Memory) (command : Command) (user : ChatUser) (route : Route)
  (world : World Memory)

/-- The handler of a route is called, once, and this is what comes of the call. -/
def Route.Calls (called : Called .handle × World Memory) : Prop :=
  (call route.handler .handle (route.invocation command user) ()).run
    (world.alter (·.note (.called route.handler .handle (route.invocation command user)))) =
      called

/-- The sender holds all that the route asks for. -/
def Route.Permitted : Prop :=
  ∀ permission ∈ route.permissions, world.state.host.hasPermission user permission.node = true

/-- How a command that is run on a route ends, and the world it leaves. -/
inductive Route.Ends : Except Stop Unit × World Memory → Prop where
  /-- The first permission that is missing is denied, and nothing else happens. -/
  | denied {held others : List Permission} {permission : Permission}
      (asked : route.permissions = held ++ permission :: others)
      (holds : ∀ known ∈ held, world.state.host.hasPermission user known.node = true)
      (missing : world.state.host.hasPermission user permission.node = false) :
      Ends (.ok (), world.telling user permission.denial)
  | handled (permitted : route.Permitted user world) {after : World Memory}
      (ran : route.Calls call command user world (⟨.ok (.ok ()), ()⟩, after)) :
      Ends (.ok (), after)
  /-- A failure is logged, and the sender is told. -/
  | failed (permitted : route.Permitted user world) {message : String} {after : World Memory}
      (ran : route.Calls call command user world (⟨.ok (.error message), ()⟩, after)) :
      Ends (.ok (), (after.alter (·.log (.warn route.title (route.names ++
        [("sender", .text (after.state.userName user)), ("error", .text message)])))).telling
          user Command.errorMessage)
  /-- So is a panic. -/
  | panicked (permitted : route.Permitted user world) {payload : Payload} {after : World Memory}
      (ran : route.Calls call command user world (⟨.error (.panic payload), ()⟩, after)) :
      Ends (.ok (), (after.alter (·.log (.error "Command panicked"
        [("command", .text command.name), ("sender", .text (after.state.userName user))]))).telling
          user Command.errorMessage)
  /-- The world could not carry out the call, for a reason that is no panic. -/
  | cut (permitted : route.Permitted user world) {stop : Stop} {after : World Memory}
      (limit : ∀ payload, stop ≠ .panic payload)
      (ran : route.Calls call command user world (⟨.error stop, ()⟩, after)) :
      Ends (.error stop, after)

end

namespace Action
variable (call : Caller Memory)

/-- Permissions are asked for one after another, up to the first that is missing. -/
theorem on_checkAll (user : ChatUser) (permissions : List Permission) (world : World Memory) :
    (checkAll user permissions).on world =
      match permissions.find? (!world.state.host.hasPermission user ·.node) with
      | none => (.ok true, world)
      | some permission => (.ok false, world.telling user permission.denial) := by
  induction permissions with
  | nil => rfl
  | cons permission rest ih =>
    unfold checkAll
    rw [on_bind_ok (on_see ..), List.find?_cons]
    cases held : world.state.host.hasPermission user permission.node with
    | true => exact ih
    | false => rfl

/-- The one call of a handler, and what is made of its end. -/
theorem on_runHandler (handler : CodeId) (invocation : Invocation) (title : String)
    (names : List (String × Value)) (world : World Memory) :
    (runHandler call handler invocation title names).on world =
      match (call handler .handle invocation ()).run
        (world.alter (·.note (.called handler .handle invocation))) with
      | (⟨.ok (.ok ()), _⟩, after) => (.ok (), after)
      | (⟨.ok (.error message), _⟩, after) =>
        (.ok (), (after.alter (·.log (.warn title (names ++
          [("sender", .text (after.state.userName invocation.sender)),
            ("error", .text message)])))).telling invocation.sender Command.errorMessage)
      | (⟨.error stop, _⟩, after) => (.error stop, after) := by
  unfold runHandler demand
  rw [on_bind, on_bind, on_attempt]
  rcases (call handler .handle invocation ()).run _ with ⟨⟨(_ | _ | _) | (_ | _), _⟩, after⟩ <;> rfl

/-- Running the handler of a route, if the sender may. -/
def pursue (command : Command) (user : ChatUser) (route : Route) : Action Memory Unit := do
  if ← checkAll user route.permissions then
    runHandler call route.handler (route.invocation command user) route.title route.names

/-- A sub-command that answers to a word is pursued, and then the command itself is not. -/
theorem on_runSubCommand {command : Command} {label : String} {rest : List String} {route : Route}
    {sub : SubCommand} (chosen : command.subCommand? label = some sub)
    (routes : command.Routes (label :: rest) route) (user : ChatUser) (world : World Memory) :
    (runSubCommand call command ⟨user, rest, command.name⟩ label).on world =
      ((pursue call command user route) >>= fun _ => pure false).on world := by
  cases routes with
  | base nobody => cases chosen.symm.trans (Command.subCommand?_eq_none_iff.mpr (nobody label rfl))
  | @sub before after first label rest listed answers passed =>
    have same := Command.subCommand?_eq_some_iff.mpr ⟨answers, before, after, listed, passed⟩
    simp only [runSubCommand, same, pursue, on_bind, on_checkAll, Command.subRoute]
    cases List.find? (!world.state.host.hasPermission user ·.node)
      (command.permission.toList ++ first.permission.toList) with
    | some permission => rfl
    | none => simp only [if_true, on_bind, Route.invocation]

theorem runBase_eq (command : Command) (user : ChatUser) (words : List String) :
    runBase call command ⟨user, words, command.name⟩ =
      pursue call command user (command.baseRoute words) := rfl

/-- Running a command means pursuing its route. A panic ends there. -/
theorem on_invoke {command : Command} {text : String} {route : Route}
    (routes : command.Routes (Arguments.split text) route) (user : ChatUser)
    (world : World Memory) :
    (invoke call command user text).on world =
      match (pursue call command user route).on world with
      | (.error (.panic _), after) =>
        (.ok (), (after.alter (·.log (.error "Command panicked" [("command", .text command.name),
          ("sender", .text (after.state.userName user))]))).telling user Command.errorMessage)
      | ended => ended := by
  unfold invoke
  rw [on_bind, on_caught]
  generalize Arguments.split text = words at routes ⊢
  cases routes with
  | sub listed answers first =>
    have chosen := Command.subCommand?_eq_some_iff.mpr ⟨answers, _, _, listed, first⟩
    simp only [on_bind, on_runSubCommand call chosen (.sub listed answers first)]
    rcases (pursue call command user _).on world with ⟨(_ | _ | _) | _, after⟩ <;> rfl
  | base nobody =>
    rw [← runBase_eq]
    cases words with
    | nil =>
      simp only [pure_bind, if_true]
      rcases (runBase call command _).on world with ⟨(_ | _ | _) | _, after⟩ <;> rfl
    | cons label rest =>
      have nothing := Command.subCommand?_eq_none_iff.mpr (nobody label rfl)
      simp only [runSubCommand, nothing, pure_bind, if_true]
      rcases (runBase call command _).on world with ⟨(_ | _ | _) | _, after⟩ <;> rfl

end Action

/-- However a command is made and whoever runs it with whatever text, the words of the text
have one route, and what comes of the command is one of these: the first permission of the
route that is missing, the command's before the sub-command's, is denied by one message and
no handler runs; or the handler of the route is called once, with the words of the route, and
no other. If it fails or panics, that is logged once and the sender is told once, and whoever
has had the command run is not concerned. Only the limits of the world itself cut it short. -/
theorem invocation_has_one_outcome (call : Caller Memory) (command : Command) (user : ChatUser)
    (text : String) (world : World Memory) :
    ∃ route, command.Routes (Arguments.split text) route ∧
      (∀ other, command.Routes (Arguments.split text) other → other = route) ∧
      route.Ends call command user world ((Action.invoke call command user text).on world) := by
  obtain ⟨route, routes⟩ := command.exists_route (Arguments.split text)
  refine ⟨route, routes, fun other too => too.unique routes, ?_⟩
  rw [Action.on_invoke call routes]
  unfold Action.pursue
  rw [Action.on_bind, Action.on_checkAll]
  cases missing : route.permissions.find? (!world.state.host.hasPermission user ·.node) with
  | some permission =>
    obtain ⟨lacks, held, others, asked, holds⟩ := List.find?_eq_some_iff_append.mp missing
    exact .denied asked (by simpa using holds) (by simpa using lacks)
  | none =>
    have permitted : route.Permitted user world := by
      simpa [Route.Permitted] using List.find?_eq_none.mp missing
    simp only [if_true, Action.on_runHandler]
    rcases ran : (call route.handler .handle (route.invocation command user) ()).run _ with
      ⟨⟨ending, _⟩, after⟩
    rcases ending with (payload | _ | _) | (message | _)
    · exact .panicked permitted ran
    · exact .cut permitted nofun ran
    · exact .cut permitted nofun ran
    · exact .failed permitted ran
    · exact .handled permitted ran

/-- Two sub-commands share a label, and the one that everybody may use comes second. -/
def doorCommand : Command :=
  ⟨"door", [], none, none, some ⟨"door.use", none⟩,
    [⟨"open", ["o"], some ⟨"door.open", some "It is locked."⟩, 0, none⟩,
      ⟨"only", ["O"], none, 0, none⟩], 0, none⟩

def doorWorld : World Unit where
  state := (State.initial .server ⟨.empty, [], "/", "/"⟩).updateHost fun host =>
    (host.addPlayer "Steve").1.updatePlayer 0 (·.setPermission "door.use" true)
  memory := ()
  shelf := [default]

/-- The first one decides: its permission is missing, and nobody runs. -/
example :
    let after := ((Action.invoke (callWithin 1) doorCommand (.player 0) "O now").on doorWorld).2
    (after.state.host.player? 0).map (·.messages) = some ["It is locked."] ∧
      after.state.history.length = 0 := by
  decide +kernel

end PluginBridge
