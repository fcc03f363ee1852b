import PluginBridge.Proofs.Commands.Invocation

/-! Completing a command and running it. Both look for a sub-command that answers to a label:
running takes the first one and then asks whether the sender may use it, completion passes
over those that the sender may not use. So what completion offers is what is run, unless a
sub-command that stands before it in the list answers to the label too; that one decides
then, and completion keeps silent about it where the sender may not use it. -/
namespace PluginBridge
variable {Memory : Type}

/-! ## What running a label comes to -/

section
variable (command : Command) (call : Caller Memory) (user : ChatUser) (world : World Memory)
  (label : String)

/-- How a sub-command ends that is run on some words, and the world it leaves. Its handler is
called, once, and the command itself does not run after it. -/
inductive SubCommand.Ends (sub : SubCommand) (words : List String) :
    Except Stop Bool × World Memory → Prop where
  | handled {after : World Memory}
      (ran : (command.subRoute sub words).Calls call command user world
        (⟨.ok (.ok ()), ()⟩, after)) :
      Ends sub words (.ok false, after)
  /-- A failure is logged, and the sender is told. -/
  | failed {message : String} {after : World Memory}
      (ran : (command.subRoute sub words).Calls call command user world
        (⟨.ok (.error message), ()⟩, after)) :
      Ends sub words (.ok false, (after.alter (·.log (.warn "Sub-command failed"
        [("command", .text command.name), ("sub_command", .text sub.name),
          ("sender", .text (after.state.userName user)), ("error", .text message)]))).telling
            user Command.errorMessage)
  /-- A panic is left to whoever has the command run, as are the limits of the world. -/
  | stopped {stop : Stop} {after : World Memory}
      (ran : (command.subRoute sub words).Calls call command user world
        (⟨.error stop, ()⟩, after)) :
      Ends sub words (.error stop, after)

/-- Running a label calls the handler of a sub-command, with whatever words follow, and
nothing is denied. -/
def Command.Runs (sub : SubCommand) : Prop :=
  ∀ words : List String, sub.Ends command call user world words
    ((Action.runSubCommand call command ⟨user, words, command.name⟩ label).on world)

/-- Running a label tells the sender that a permission is missing, and nothing else. -/
def Command.Denies (permission : Permission) : Prop :=
  ∀ words : List String,
    (Action.runSubCommand call command ⟨user, words, command.name⟩ label).on world =
      (.ok false, world.telling user permission.denial)

/-- What running a label comes to if a sub-command answers to it that the sender may use, and
these stand before it in the list. -/
structure Command.Foretold (before : List SubCommand) (sub : SubCommand) : Prop where
  alone : (∀ other ∈ before, other.answersTo label = false) →
    command.Runs call user world label sub
  /-- The first one before it that answers too is run in its place, if the sender may. -/
  taken : ∀ first ∈ before.find? (·.answersTo label),
    world.state.host.permits user first.permission = true →
      command.Runs call user world label first
  denied : ∀ first ∈ before.find? (·.answersTo label), ∀ permission ∈ first.permission,
    world.state.host.hasPermission user permission.node = false →
      command.Denies call user world label permission

end

theorem Host.permits_iff {host : Host} {user : ChatUser} {permission : Option Permission} :
    host.permits user permission = true ↔
      ∀ known ∈ permission, host.hasPermission user known.node = true := by
  cases permission <;> simp [Host.permits]

section
variable {command : Command} {call : Caller Memory} {user : ChatUser} {world : World Memory}
  {label : String} {sub : SubCommand}

theorem Command.runs_of_subCommand? (chosen : command.subCommand? label = some sub)
    (use : world.state.host.permits user command.permission = true)
    (may : world.state.host.permits user sub.permission = true) :
    command.Runs call user world label sub := by
  intro words
  have nothing : (command.permission.toList ++ sub.permission.toList).find?
      (!world.state.host.hasPermission user ·.node) = none := by
    rw [Host.permits_iff] at use may
    simpa [or_imp, forall_and] using And.intro use may
  simp only [Action.runSubCommand, chosen, Action.on_bind, Action.on_checkAll, nothing, if_true,
    Action.on_runHandler]
  rcases ran : (call sub.handler .handle ⟨user, words, command.name⟩ ()).run _ with
    ⟨⟨ending, _⟩, after⟩
  rcases ending with stop | message | _
  · exact .stopped ran
  · exact .failed ran
  · exact .handled ran

theorem Command.denies_of_subCommand? (chosen : command.subCommand? label = some sub)
    (use : world.state.host.permits user command.permission = true) {permission : Permission}
    (asked : permission ∈ sub.permission)
    (lacks : world.state.host.hasPermission user permission.node = false) :
    command.Denies call user world label permission := by
  intro words
  have held : command.permission.toList.find? (!world.state.host.hasPermission user ·.node) =
      none := by
    simpa using Host.permits_iff.mp use
  have missing : (command.permission.toList ++ sub.permission.toList).find?
      (!world.state.host.hasPermission user ·.node) = some permission := by
    rw [List.find?_append, held, Option.mem_def.mp asked]
    simp [lacks]
  simp only [Action.runSubCommand, chosen, Action.on_bind, Action.on_checkAll, missing]
  rfl

/-- A sub-command that the sender may use is run by its labels unless one before it answers,
and the first that does decides. -/
theorem Command.foretold {before after : List SubCommand}
    (listed : command.subCommands = before ++ sub :: after) (answers : sub.answersTo label = true)
    (use : world.state.host.permits user command.permission = true)
    (may : world.state.host.permits user sub.permission = true) :
    command.Foretold call user world label before sub := by
  have chosen : command.subCommand? label =
      (before.find? (·.answersTo label)).or (some sub) := by
    rw [Command.subCommand?, listed, List.find?_append, List.find?_cons, answers]
  refine ⟨fun alone => ?_, fun first found allowed => ?_,
    fun first found permission asked lacks => ?_⟩
  · have none : before.find? (·.answersTo label) = none := by simpa using alone
    rw [none] at chosen
    exact Command.runs_of_subCommand? chosen use may
  · rw [Option.mem_def.mp found] at chosen
    exact Command.runs_of_subCommand? chosen use allowed
  · rw [Option.mem_def.mp found] at chosen
    exact Command.denies_of_subCommand? chosen use asked lacks

end

/-! ## What is completed -/

theorem mem_subCommandNames {host : Host} {command : Command} {user : ChatUser}
    {typed name : String} : name ∈ Action.subCommandNames host command user typed ↔
      ∃ sub ∈ command.subCommands, sub.name = name ∧ host.permits user sub.permission = true ∧
        Text.completes typed sub.name = true := by
  simp only [Action.subCommandNames, List.mem_map, List.mem_filter]
  constructor
  · rintro ⟨sub, ⟨⟨listed, may⟩, begins⟩, named⟩
    exact ⟨sub, listed, named, may, begins⟩
  · rintro ⟨sub, listed, named, may, begins⟩
    exact ⟨sub, ⟨⟨listed, may⟩, begins⟩, named⟩

namespace Action
variable (call : Caller Memory) (command : Command) (user : ChatUser) (world : World Memory)

/-- The first argument is completed with names, and nobody is asked for them. -/
theorem on_completeStandard_first {words : List String} (short : words.length ≤ 1) :
    (completeStandard call command ⟨user, words, command.name⟩).on world =
      (.ok (if world.state.host.permits user command.permission = true then
        subCommandNames world.state.host command user (words.headD "") else []), world) := by
  unfold completeStandard
  rw [on_bind_ok (on_see ..)]
  dsimp only
  cases world.state.host.permits user command.permission with
  | false => rfl
  | true =>
    match words, short with
    | [], _ => rfl
    | [typed], _ => rfl

/-- Completes with the completer of a sub-command, if it has one. -/
def consult (sub? : Option SubCommand) (invocation : Invocation) : Action Memory (List String) :=
  match sub?.bind (·.completer) with
  | none => return []
  | some code => do return (← demand call code .complete invocation ()).1

/-- The others are left to the first sub-command that answers and that the sender may use. -/
theorem on_completeStandard_rest (label : String) {words : List String} (more : words ≠ []) :
    (completeStandard call command ⟨user, label :: words, command.name⟩).on world =
      if world.state.host.permits user command.permission = true then
        (consult call (command.subCommands.find? fun sub =>
          sub.answersTo label && world.state.host.permits user sub.permission)
            ⟨user, words, command.name⟩).on world
      else (.ok [], world) := by
  unfold completeStandard
  rw [on_bind_ok (on_see ..)]
  dsimp only
  cases world.state.host.permits user command.permission with
  | false => rfl
  | true =>
    match words, more with
    | next :: others, _ => rfl

/-- If a completer is asked, it is that of a sub-command which the sender may use, and the
sender may use none of those before it that answer as well. -/
theorem on_consult (host : Host) (invocation : Invocation) (label : String) :
    (consult call (command.subCommands.find? fun sub =>
        sub.answersTo label && host.permits user sub.permission) invocation).on world =
      (.ok [], world) ∨
    ∃ before sub after code, command.subCommands = before ++ sub :: after ∧
      sub.answersTo label = true ∧ host.permits user sub.permission = true ∧
      (∀ other ∈ before, other.answersTo label = true →
        host.permits user other.permission = false) ∧
      sub.completer = some code ∧
      consult call (command.subCommands.find? fun sub =>
          sub.answersTo label && host.permits user sub.permission) invocation =
        (demand call code .complete invocation () >>= fun called => pure called.1) := by
  cases chosen : command.subCommands.find? fun sub =>
      sub.answersTo label && host.permits user sub.permission with
  | none => exact .inl rfl
  | some sub =>
    cases completer : sub.completer with
    | none => exact .inl (by simp [consult, completer])
    | some code =>
      obtain ⟨fits, before, after, listed, passed⟩ := List.find?_eq_some_iff_append.mp chosen
      obtain ⟨answers, may⟩ := Bool.and_eq_true_iff.mp fits
      refine .inr ⟨before, sub, after, code, listed, answers, may, fun other earlier too => ?_,
        completer, by simp [consult, completer]⟩
      simpa [too] using passed other earlier

end Action

/-- A sender holds the same permissions in two worlds. -/
def World.SamePermissions (world : World Memory) (user : ChatUser) (later : World Memory) : Prop :=
  ∀ node, later.state.host.hasPermission user node = world.state.host.hasPermission user node

theorem World.SamePermissions.permits {world later : World Memory} {user : ChatUser}
    (same : world.SamePermissions user later) (permission : Option Permission) :
    later.state.host.permits user permission = world.state.host.permits user permission := by
  cases permission with
  | none => rfl
  | some known => exact same known.node

/-- Completing the first argument calls nobody, and each name that is offered is that of a
sub-command which the sender may use. Completing further arguments asks nobody, or the
completer of a sub-command that answers to the label and that the sender may use, where none
of those before it that answer are. As long as the sender's permissions stay as they are,
running the name or the label calls the handler of just this sub-command and nothing is
denied, unless a sub-command before it in the list answers too. Then the first of those is
run or denied in its place, and behind a completer it is denied. -/
theorem completion_foretells_running (call : Caller Memory) (command : Command) (user : ChatUser)
    (world : World Memory) :
    (∀ words : List String, words.length ≤ 1 → ∃ names,
      (Action.completeStandard call command ⟨user, words, command.name⟩).on world =
        (.ok names, world) ∧
      ∀ name ∈ names,
        (∃ sub ∈ command.subCommands, sub.name = name ∧
          world.state.host.permits user sub.permission = true) ∧
        ∀ before sub after, command.subCommands = before ++ sub :: after → sub.name = name →
          world.state.host.permits user sub.permission = true →
          ∀ later, world.SamePermissions user later →
            command.Foretold call user later name before sub) ∧
    ∀ (label : String) (words : List String), words ≠ [] →
      (Action.completeStandard call command ⟨user, label :: words, command.name⟩).on world =
        (.ok [], world) ∨
      ∃ before sub after code, command.subCommands = before ++ sub :: after ∧
        sub.completer = some code ∧
        (Action.completeStandard call command ⟨user, label :: words, command.name⟩).on world =
          (Action.demand call code .complete ⟨user, words, command.name⟩ () >>= fun called =>
            pure called.1).on world ∧
        (∀ other ∈ before, other.answersTo label = true →
          world.state.host.permits user other.permission = false) ∧
        ∀ later, world.SamePermissions user later →
          command.Foretold call user later label before sub := by
  have foretold {before after : List SubCommand} {sub : SubCommand} {label : String}
      (listed : command.subCommands = before ++ sub :: after)
      (answers : sub.answersTo label = true)
      (use : world.state.host.permits user command.permission = true)
      (may : world.state.host.permits user sub.permission = true)
      (later : World Memory) (same : world.SamePermissions user later) :
      command.Foretold call user later label before sub :=
    Command.foretold listed answers ((same.permits _).trans use) ((same.permits _).trans may)
  refine ⟨fun words short => ⟨_, Action.on_completeStandard_first call command user world short,
    fun name offered => ?_⟩, fun label words more => ?_⟩
  · split at offered
    · next use =>
      obtain ⟨sub, member, named, may, -⟩ := mem_subCommandNames.mp offered
      refine ⟨⟨sub, member, named, may⟩, fun before sub after listed named may => ?_⟩
      have answers : sub.answersTo name = true := by
        simp [SubCommand.answersTo, Text.answers, named]
      exact foretold listed answers use may
    · cases offered
  · rw [Action.on_completeStandard_rest call command user world label more]
    split
    · next use =>
      obtain nobody | ⟨before, sub, after, code, listed, answers, may, passed, completer, asks⟩ :=
        Action.on_consult call command user world world.state.host ⟨user, words, command.name⟩ label
      · exact .inl nobody
      · refine .inr ⟨before, sub, after, code, listed, completer, ?_, passed, ?_⟩
        · rw [asks]
        · exact foretold listed answers use may
    · exact .inl rfl

/-- Answers to the name of the one behind it, and asks for a permission of its own. -/
def hatchBolt : SubCommand :=
  ⟨"bolt", ["open"], some ⟨"hatch.bolt", some "It is locked."⟩, 0, none⟩

def hatchFlap : SubCommand :=
  ⟨"open", ["flap"], none, 0, some 0⟩

def hatchCommand : Command :=
  ⟨"hatch", [], none, none, some ⟨"door.use", none⟩, [hatchBolt, hatchFlap], 0, none⟩

theorem hatch_completion_foretells_running :
    (Action.completeStandard (callWithin 1) hatchCommand ⟨.player 0, ["o"], "hatch"⟩).on doorWorld =
        (.ok ["open"], doorWorld) ∧
      hatchCommand.Denies (callWithin 1) (.player 0) doorWorld "open"
        ⟨"hatch.bolt", some "It is locked."⟩ ∧
      hatchCommand.Runs (callWithin 1) (.player 0) doorWorld "flap" hatchFlap := by
  obtain ⟨first, rest⟩ :=
    completion_foretells_running (callWithin 1) hatchCommand (.player 0) doorWorld
  obtain ⟨names, ran, each⟩ := first ["o"] (by decide)
  have offered : ((Action.completeStandard (callWithin 1) hatchCommand
      ⟨.player 0, ["o"], "hatch"⟩).on doorWorld).1.toOption = some ["open"] := by decide +kernel
  obtain rfl : names = ["open"] := by
    have same := congrArg (·.1.toOption) ran
    exact Option.some.inj (same.symm.trans offered)
  refine ⟨ran, ?_, ?_⟩
  · have foretold := (each "open" (by simp)).2 [hatchBolt] hatchFlap [] rfl rfl rfl doorWorld
      fun _ => rfl
    exact foretold.denied hatchBolt rfl _ rfl (by decide +kernel)
  · obtain idle | ⟨before, sub, after, code, listed, completer, -, -, foretold⟩ :=
      rest "flap" ["s"] (by decide)
    · have silent := congrArg (·.2.state.history.length) idle
      exact absurd silent (by decide +kernel)
    · match before, listed with
      | [], listed =>
        cases listed
        cases completer
      | [bolt], listed =>
        cases listed
        exact (foretold doorWorld fun _ => rfl).alone (by decide)
      | bolt :: flap :: others, listed => simp [hatchCommand] at listed

/-- The name of the second sub-command is offered, and its completer is asked for what follows
the name. Running the name is denied all the same, since it is an alias of the first. -/
theorem offered_name_is_denied :
    ((Action.completeStandard (callWithin 1) hatchCommand
        ⟨.player 0, ["o"], "hatch"⟩).on doorWorld).1.toOption = some ["open"] ∧
      ((Action.completeStandard (callWithin 1) hatchCommand
        ⟨.player 0, ["open", "s"], "hatch"⟩).on doorWorld).2.state.history =
          [.called 0 .complete ⟨.player 0, ["s"], "hatch"⟩] ∧
      hatchCommand.Denies (callWithin 1) (.player 0) doorWorld "open"
        ⟨"hatch.bolt", some "It is locked."⟩ ∧
      ¬ hatchCommand.Runs (callWithin 1) (.player 0) doorWorld "open" hatchFlap := by
  have denies : hatchCommand.Denies (callWithin 1) (.player 0) doorWorld "open"
      ⟨"hatch.bolt", some "It is locked."⟩ := by
    have bolt : hatchCommand.subCommand? "open" = some hatchBolt := rfl
    exact Command.denies_of_subCommand? bolt (by decide +kernel) rfl (by decide +kernel)
  refine ⟨by decide +kernel, rfl, denies, fun runs => ?_⟩
  have noted : ((callWithin 1 hatchFlap.handler .handle ⟨.player 0, [], "hatch"⟩ ()).run
      (doorWorld.alter (·.note (.called 0 .handle ⟨.player 0, [], "hatch"⟩)))).2.state.history ≠
        [] := by
    decide +kernel
  have ends := runs []
  rw [denies []] at ends
  generalize left : (Except.ok false, doorWorld.telling (.player 0) _) = outcome at ends
  have idle : outcome.2.state.history = [] := by
    rw [← left]
    rfl
  cases ends with
  | handled ran => exact noted ((congrArg (·.2.state.history) ran).trans idle)
  | failed ran => exact noted ((congrArg (·.2.state.history) ran).trans idle)
  | stopped ran => exact noted ((congrArg (·.2.state.history) ran).trans idle)

end PluginBridge
