import PluginBridge.Proofs.Commands.Completion

/-! What completion gives away. The standard completion looks at a command only through the
sub-commands that the sender may use: they alone settle which names are offered and which
completer is asked. So two commands that differ in what the sender may not use are completed
alike, wherever that stands in their lists and whatever it is called. -/
namespace PluginBridge
variable {Memory : Type}

/-! ## What the sender may use -/

/-- The sub-commands that a sender may use, in the order of the list. -/
def Command.usable (command : Command) (host : Host) (user : ChatUser) : List SubCommand :=
  command.subCommands.filter fun sub => host.permits user sub.permission

/-- What completion comes to: names that are offered, or a completer that is asked. -/
inductive Hint where
  | names (offered : List String)
  | asks (completer : CodeId) (arguments : List String)
deriving DecidableEq, Repr

namespace Hint

def beginning (usable : List SubCommand) (typed : String) : Hint :=
  .names ((usable.filter fun sub => Text.completes typed sub.name).map (·.name))

/-- The hint that some sub-commands give on words. -/
def among (usable : List SubCommand) : List String → Hint
  | [] => beginning usable ""
  | [typed] => beginning usable typed
  | label :: rest =>
    match (usable.find? (·.answersTo label)).bind (·.completer) with
    | none => .names []
    | some completer => .asks completer rest

end Hint

/-- The hint that a command gives a sender on words. -/
def Command.hint (command : Command) (host : Host) (user : ChatUser) (words : List String) :
    Hint :=
  if host.permits user command.permission then .among (command.usable host user) words
  else .names []

/-- A completer is asked about these arguments: it is that of a sub-command which answers to
the word before them, and the sender may use the command and the sub-command. -/
structure Command.Asks (command : Command) (host : Host) (user : ChatUser) (words : List String)
    (completer : CodeId) (arguments : List String) : Prop where
  use : host.permits user command.permission = true
  asked : ∃ label, words = label :: arguments ∧ ∃ sub ∈ command.subCommands,
    sub.answersTo label = true ∧ host.permits user sub.permission = true ∧
      sub.completer = some completer

section
variable {command : Command} {host : Host} {user : ChatUser} {words : List String}

theorem Hint.mem_names {usable : List SubCommand} {offered : List String} {name : String}
    (hint : Hint.among usable words = .names offered) (member : name ∈ offered) :
    ∃ sub ∈ usable, sub.name = name := by
  have named {typed : String} (hint : beginning usable typed = .names offered) :
      ∃ sub ∈ usable, sub.name = name := by
    cases hint
    obtain ⟨sub, begins, named⟩ := List.mem_map.mp member
    exact ⟨sub, (List.mem_filter.mp begins).1, named⟩
  match words with
  | [] | [typed] => exact named hint
  | label :: next :: rest =>
    simp only [among] at hint
    split at hint
    · cases hint
      cases member
    · cases hint

theorem Hint.asks_sub {usable : List SubCommand} {completer : CodeId} {arguments : List String}
    (hint : Hint.among usable words = .asks completer arguments) :
    ∃ label, words = label :: arguments ∧ ∃ sub ∈ usable,
      sub.answersTo label = true ∧ sub.completer = some completer := by
  match words with
  | [] | [typed] => cases hint
  | label :: next :: rest =>
    simp only [among] at hint
    split at hint
    · cases hint
    · next asked =>
      cases hint
      obtain ⟨sub, found, has⟩ := Option.bind_eq_some_iff.mp asked
      exact ⟨label, rfl, sub, List.mem_of_find?_eq_some found,
        by simpa using List.find?_some found, has⟩

/-- Only names of what the sender may use are offered. -/
theorem Command.mem_offered {offered : List String} {name : String}
    (hint : command.hint host user words = .names offered) (member : name ∈ offered) :
    ∃ sub ∈ command.subCommands, sub.name = name ∧ host.permits user sub.permission = true := by
  unfold Command.hint at hint
  split at hint
  · obtain ⟨sub, usable, named⟩ := Hint.mem_names hint member
    obtain ⟨listed, may⟩ := List.mem_filter.mp usable
    exact ⟨sub, listed, named, may⟩
  · cases hint
    cases member

/-- Only a completer of what the sender may use is asked. -/
theorem Command.asks_of_hint {completer : CodeId} {arguments : List String}
    (hint : command.hint host user words = .asks completer arguments) :
    command.Asks host user words completer arguments := by
  unfold Command.hint at hint
  split at hint
  · next use =>
    obtain ⟨label, typed, sub, usable, answers, has⟩ := Hint.asks_sub hint
    obtain ⟨listed, may⟩ := List.mem_filter.mp usable
    exact ⟨use, label, typed, sub, listed, answers, may, has⟩
  · cases hint

end

/-- A command gives the same hint wherever the sender's permissions are the same. -/
theorem World.SamePermissions.hint {world other : World Memory} {user : ChatUser}
    (same : world.SamePermissions user other) (command : Command) (words : List String) :
    command.hint other.state.host user words = command.hint world.state.host user words := by
  simp only [Command.hint, Command.usable, same.permits]

/-! ## What completion comes to -/

namespace Action
variable (call : Caller Memory) (command : Command) (user : ChatUser) (world : World Memory)

/-- What becomes of a hint. -/
def follow (name : String) : Hint → Action Memory (List String)
  | .names offered => return offered
  | .asks completer arguments => do
    return (← demand call completer .complete ⟨user, arguments, name⟩ ()).1

/-- The standard completion follows the hint of the command. -/
theorem on_completeStandard (words : List String) :
    (completeStandard call command ⟨user, words, command.name⟩).on world =
      (follow call user command.name (command.hint world.state.host user words)).on world := by
  unfold Command.hint
  match words with
  | [] | [typed] =>
    rw [on_completeStandard_first call command user world (by simp)]
    split
    · rfl
    · rfl
  | label :: next :: rest =>
    rw [on_completeStandard_rest call command user world label (List.cons_ne_nil next rest)]
    have found : (command.subCommands.find? fun sub =>
          sub.answersTo label && world.state.host.permits user sub.permission) =
        (command.usable world.state.host user).find? (·.answersTo label) := by
      simp [Command.usable, List.find?_filter, Bool.and_comm, Bool.decide_and]
    rw [found]
    split
    · simp only [consult, Hint.among]
      cases (List.find? (·.answersTo label) (command.usable world.state.host user)).bind
        (·.completer) <;> rfl
    · rfl

/-- What calling a completer comes to. -/
def consulted (completer : CodeId) (invocation : Invocation) : Called .complete × World Memory :=
  (call completer .complete invocation ()).run
    (world.alter (·.note (.called completer .complete invocation)))

/-- What comes of the answer that a completer gives: a panic is logged, and nothing is
suggested then. -/
def concluded (name : String) :
    Called .complete × World Memory → Except Stop (List String) × World Memory
  | (⟨.ok suggestions, _⟩, after) => (.ok suggestions, after)
  | (⟨.error (.panic _), _⟩, after) =>
    (.ok [], after.alter (·.log (.error "Tab completion panicked"
      [("command", .text name), ("sender", .text (after.state.userName user))])))
  | (⟨.error stop, _⟩, after) => (.error stop, after)

/-- Completing a command that has no completer of its own: the names of a hint are offered,
or the completer of a hint is called, once. -/
theorem on_complete {command : Command} (standard : command.completer = none) (text : String) :
    (complete call command user text).on world =
      match command.hint world.state.host user (Arguments.splitForCompletion text) with
      | .names offered => (.ok offered, world)
      | .asks completer arguments =>
        concluded user command.name
          (consulted call world completer ⟨user, arguments, command.name⟩) := by
  unfold complete completeArguments
  simp only [standard]
  rw [on_bind, on_caught, on_completeStandard]
  cases command.hint world.state.host user (Arguments.splitForCompletion text) with
  | names offered => rfl
  | asks completer arguments =>
    dsimp only [follow]
    rw [on_bind, on_demand]
    unfold consulted
    rcases (call completer .complete ⟨user, arguments, command.name⟩ ()).run _ with
      ⟨⟨(_ | _ | _) | _, left⟩, after⟩ <;> rfl

end Action

/-- What completing a command comes to: nothing happens and names are offered, which are
those of sub-commands that the sender may use; or one completer is called, once, which the
sender may use, and what it leaves stays but for the record of a panic. -/
inductive Command.Completes (command : Command) (call : Caller Memory) (user : ChatUser)
    (words : List String) (world : World Memory) : Except Stop (List String) × World Memory → Prop
  | offered {names : List String}
      (usable : ∀ name ∈ names, ∃ sub ∈ command.subCommands, sub.name = name ∧
        world.state.host.permits user sub.permission = true) :
      Completes command call user words world (.ok names, world)
  | asked {completer : CodeId} {arguments : List String}
      (asks : command.Asks world.state.host user words completer arguments) :
      Completes command call user words world (Action.concluded user command.name
        (Action.consulted call world completer ⟨user, arguments, command.name⟩))

/-- What somebody has been sent, oldest first. -/
def Host.sent (host : Host) : ChatUser → List String
  | .console _ => host.console
  | .player id => ((host.player? id).map (·.messages)).getD []

/-- What a completer answers depends on the sender and the arguments alone, as long as code
means what it means on this shelf. -/
def Caller.AnswersAlike (call : Caller Memory) (shelf : List (Code Memory)) (completer : CodeId) :
    Prop :=
  ∃ answer : ChatUser → List String → Except Stop (List String),
    ∀ (invocation : Invocation) (world : World Memory), world.shelf = shelf →
      (Action.consulted call world completer invocation).1.ending =
        answer invocation.sender invocation.arguments

section
variable {call : Caller Memory} {command : Command} {user : ChatUser} {world : World Memory}

theorem Action.concluded_answer {name : String} {called other : Called .complete × World Memory}
    (alike : called.1.ending = other.1.ending) (another : String) :
    (concluded user name called).1 = (concluded user another other).1 := by
  rcases called with ⟨⟨ending, left⟩, after⟩
  rcases other with ⟨⟨same, leftToo⟩, afterToo⟩
  obtain rfl : ending = same := alike
  rcases ending with (_ | _ | _) | _ <;> rfl

theorem Action.host_concluded (name : String) (called : Called .complete × World Memory) :
    (concluded user name called).2.state.host = called.2.state.host := by
  rcases called with ⟨⟨(_ | _ | _) | _, left⟩, after⟩ <;> rfl

theorem Command.completes (standard : command.completer = none) (text : String) :
    command.Completes call user (Arguments.splitForCompletion text) world
      ((Action.complete call command user text).on world) := by
  rw [Action.on_complete call user world standard]
  cases hint : command.hint world.state.host user (Arguments.splitForCompletion text) with
  | names offered => exact .offered fun name => command.mem_offered hint
  | asks completer arguments => exact .asked (Command.asks_of_hint hint)

/-- Nobody is sent anything unless the completer that is asked does it. -/
theorem Command.Completes.sent {words : List String}
    {ended : Except Stop (List String) × World Memory}
    (completes : command.Completes call user words world ended) (reader : ChatUser)
    (silent : ∀ completer arguments, command.Asks world.state.host user words completer arguments →
      (Action.consulted call world completer
        ⟨user, arguments, command.name⟩).2.state.host.sent reader = world.state.host.sent reader) :
    ended.2.state.host.sent reader = world.state.host.sent reader := by
  cases completes with
  | offered usable => rfl
  | asked asks =>
    rw [Action.host_concluded]
    exact silent _ _ asks

end

/-- Completing a command in the standard way offers names of what the sender may use, or asks
one completer of what the sender may use; nobody is sent anything by it, and a sender who may
not use the command is suggested nothing at all. Two commands with one permission which are
the same but for sub-commands that the sender may not use are completed alike, in any two
worlds that give the sender the same permissions, if the completers of what the sender may use
depend on the sender and the arguments alone. -/
theorem completion_hides_what_is_denied (call : Caller Memory) (user : ChatUser) (text : String)
    (world : World Memory) :
    (∀ command : Command, command.completer = none →
      let words := Arguments.splitForCompletion text
      let ended := (Action.complete call command user text).on world
      command.Completes call user words world ended ∧
      (∀ reader, (∀ completer arguments,
          command.Asks world.state.host user words completer arguments →
          (Action.consulted call world completer
            ⟨user, arguments, command.name⟩).2.state.host.sent reader =
              world.state.host.sent reader) →
        ended.2.state.host.sent reader = world.state.host.sent reader) ∧
      (world.state.host.permits user command.permission = false → ended = (.ok [], world))) ∧
    ∀ (one two : Command) (other : World Memory), one.completer = none → two.completer = none →
      one.permission = two.permission →
      one.usable world.state.host user = two.usable world.state.host user →
      world.SamePermissions user other → other.shelf = world.shelf →
      (∀ sub ∈ one.usable world.state.host user, ∀ completer ∈ sub.completer,
        call.AnswersAlike world.shelf completer) →
      ((Action.complete call one user text).on world).1 =
        ((Action.complete call two user text).on other).1 := by
  refine ⟨fun command standard => ⟨command.completes standard text, fun reader silent =>
    (command.completes standard text).sent reader silent, fun denied => ?_⟩,
    fun one two other standard standardToo permission usable same shelf alike => ?_⟩
  · rw [Action.on_complete call user world standard]
    simp [Command.hint, denied]
  · have hints : two.hint other.state.host user (Arguments.splitForCompletion text) =
        one.hint world.state.host user (Arguments.splitForCompletion text) := by
      rw [same.hint]
      simp only [Command.hint, permission, usable]
    rw [Action.on_complete call user world standard, Action.on_complete call user other standardToo,
      hints]
    cases hint : one.hint world.state.host user (Arguments.splitForCompletion text) with
    | names offered => rfl
    | asks completer arguments =>
      obtain ⟨-, -, -, sub, listed, -, may, has⟩ := Command.asks_of_hint hint
      obtain ⟨answer, answers⟩ :=
        alike sub (List.mem_filter.mpr ⟨listed, may⟩) completer (Option.mem_def.mpr has)
      refine Action.concluded_answer ?_ two.name
      exact (answers ⟨user, arguments, one.name⟩ world rfl).trans
        (answers ⟨user, arguments, two.name⟩ other shelf).symm

/-- Everybody who may use the command may open it. -/
def vaultOpening : SubCommand := ⟨"open", ["o"], none, 0, some 1⟩

/-- Only few may empty it, by a label that opens it for all others. -/
def vaultEmptying : SubCommand := ⟨"empty", ["open"], some ⟨"vault.empty", none⟩, 0, some 2⟩

def vaultCommand (subs : List SubCommand) : Command :=
  ⟨"vault", [], none, none, some ⟨"door.use", none⟩, subs, 0, none⟩

/-- One completer suggests what has been typed, another one panics. -/
def vaultWorld : World Unit :=
  { doorWorld with
    shelf := [default, .completer fun invocation => .finish invocation.arguments,
      .completer fun _ => .panic .other] }

/-- The sender cannot tell whether the vault can be emptied. -/
theorem vault_hides_its_emptying :
    let plain := vaultCommand [vaultOpening]
    let full := vaultCommand [vaultEmptying, vaultOpening]
    let completed (command : Command) :=
      ((Action.complete (callWithin 1) command (.player 0) "open s").on vaultWorld).1
    (∀ sub ∈ plain.usable vaultWorld.state.host (.player 0), ∀ completer ∈ sub.completer,
      (callWithin 1 : Caller Unit).AnswersAlike vaultWorld.shelf completer) ∧
    completed plain = completed full ∧ (completed full).toOption = some ["s"] := by
  intro plain full completed
  have usable : plain.usable vaultWorld.state.host (.player 0) = [vaultOpening] := by
    decide +kernel
  have alike : ∀ sub ∈ plain.usable vaultWorld.state.host (.player 0),
      ∀ completer ∈ sub.completer,
        (callWithin 1 : Caller Unit).AnswersAlike vaultWorld.shelf completer := by
    rw [usable, List.forall_mem_singleton]
    rintro completer ⟨⟩
    refine ⟨fun _ arguments => .ok arguments, fun invocation world shelf => ?_⟩
    rw [Action.consulted, callWithin_succ, World.shelf_alter, shelf]
    rfl
  obtain ⟨-, same⟩ := completion_hides_what_is_denied (callWithin 1) (.player 0) "open s" vaultWorld
  exact ⟨alike, same plain full vaultWorld rfl rfl rfl (by decide +kernel) (fun _ => rfl) rfl alike,
    by decide +kernel⟩

end PluginBridge
