import Mathlib.Data.Bool.AllAny
import PluginBridge.Proofs.Commands.Names
import PluginBridge.Proofs.World.Runs
import PluginBridge.Script

/-! The lines that players type and the labels that commands were registered by. No two
commands answer to one label, so a line that begins with a label reaches the command that has
it, with the text behind the label as it stands. Slashes in front of a label are passed over
however many there are, so a label that itself begins with one is looked up without it. -/
namespace PluginBridge
open Host (Offer Executor Sender)
open Text (isBlank)
variable {Memory : Type}

/-! ## Lines -/

namespace Host

/-- What is left of a label when it has been read from a line. -/
def bareLabel (label : String) : String :=
  String.ofList (label.toList.dropWhile (· = '/'))

theorem bareLabel_eq {label : String} (bare : label.toList.head? ≠ some '/') :
    bareLabel label = label := by
  have same : label.toList.dropWhile (· = '/') = label.toList := by
    cases chars : label.toList with
    | nil => rfl
    | cons c rest =>
      have other : c ≠ '/' := by simpa [chars] using bare
      exact List.dropWhile_cons_of_neg (by simpa using other)
  rw [bareLabel, same, String.ofList_toList]

theorem cutAtBlank_append {label : List Char} (plain : ∀ c ∈ label, isBlank c = false)
    {blank : Char} (gap : isBlank blank = true) (text : List Char) :
    cutAtBlank (label ++ blank :: text) = (label, some text) := by
  induction label with
  | nil => simp [cutAtBlank, gap]
  | cons c rest ih =>
    obtain ⟨first, others⟩ := List.forall_mem_cons.mp plain
    simp [cutAtBlank, first, ih others]

/-- A label that has been typed behind a slash, a blank and some text are read as the label
without its slashes and just this text. -/
theorem splitLine_typed {label : String} (plain : ∀ c ∈ label.toList, isBlank c = false)
    (text : String) : splitLine ("/" ++ label ++ " " ++ text) = (bareLabel label, some text) := by
  have typed : ("/" ++ label ++ " " ++ text).toList =
      '/' :: (label.toList ++ ' ' :: text.toList) := by
    simp [String.toList_append]
  have trimmed : Text.trimStart ('/' :: (label.toList ++ ' ' :: text.toList)) =
      '/' :: (label.toList ++ ' ' :: text.toList) :=
    List.dropWhile_cons_of_neg (by decide)
  have passed : ('/' :: (label.toList ++ ' ' :: text.toList)).dropWhile (· = '/') =
      label.toList.dropWhile (· = '/') ++ ' ' :: text.toList := by
    rw [List.dropWhile_cons_of_pos (by decide), List.dropWhile_append]
    split
    · next none => rw [List.isEmpty_iff.mp none]; rfl
    · rfl
  have kept : ∀ c ∈ label.toList.dropWhile (· = '/'), isBlank c = false :=
    fun c member => plain c ((List.dropWhile_sublist _).subset member)
  rw [splitLine, typed, trimmed, passed, cutAtBlank_append kept (by decide)]
  simp [bareLabel]

end Host

/-! ## What comes of a line -/

section
variable (call : Caller Memory) (world : World Memory) (line : Line)

/-- How running a line ends, and the world it leaves, if an executor runs it and that is all
that happens: code is called once, and a plugin's command is run once for the sender. -/
inductive Host.Executor.Runs : Executor → Except Stop (Option Bool) × World Memory → Prop where
  | code {id : CodeId} {called : Called .execute} {after : World Memory}
      (ran : (call id .execute line ()).run
        (world.alter (·.note (.called id .execute line))) = (called, after)) :
      Runs (.code id) (called.ending.map some, after)
  | adapter {id : AdapterId} {command : Command} {ended : Except Stop Unit}
      {after : World Memory} (ran : (Action.invoke call command
        ((world.state.adapter id).wrap line.sender) line.text).on world = (ended, after)) :
      Runs (.adapter id command) (ended.map fun _ => some true, after)

/-- The same for the completion of a line. -/
inductive Host.Executor.Suggests :
    Executor → Except Stop (List String) × World Memory → Prop where
  | code {id : CodeId} {called : Called .suggest} {after : World Memory}
      (ran : (call id .suggest line ()).run
        (world.alter (·.note (.called id .suggest line))) = (called, after)) :
      Suggests (.code id) (called.ending, after)
  | adapter {id : AdapterId} {command : Command} {ended : Except Stop (List String)}
      {after : World Memory} (ran : (Action.complete call command
        ((world.state.adapter id).wrap line.sender) line.text).on world = (ended, after)) :
      Suggests (.adapter id command) (ended, after)

end

namespace Action
variable (call : Caller Memory) (sender : Sender) {world : World Memory}

theorem runs_executor (executor : Executor) (line : Line) :
    executor.Runs call world line
      ((executeOn call executor line >>= fun success => pure (some success)).on world) := by
  cases executor with
  | code id =>
    unfold executeOn demand
    rw [on_bind, on_bind, on_bind, on_attempt]
    rcases ran : (call id .execute line ()).run _ with ⟨⟨(_ | _ | _) | success, _⟩, after⟩ <;>
      exact .code ran
  | adapter id command =>
    simp only [executeOn, on_bind, on_see]
    rcases ran : (invoke call command ((world.state.adapter id).wrap line.sender) line.text).on
      world with ⟨stop | done, after⟩
    · exact .adapter ran
    · exact .adapter ran

theorem suggests_executor (executor : Executor) (line : Line) :
    executor.Suggests call world line ((suggestOn call executor line).on world) := by
  cases executor with
  | code id =>
    unfold suggestOn demand
    rw [on_bind, on_bind, on_attempt]
    rcases ran : (call id .suggest line ()).run _ with ⟨⟨(_ | _ | _) | offered, _⟩, after⟩ <;>
      exact .code ran
  | adapter id command =>
    unfold suggestOn
    rw [on_bind_ok (on_see ..)]
    exact .adapter rfl

section
variable (world) {label : String} (plain : ∀ c ∈ label.toList, isBlank c = false) (text : String)
include plain

theorem on_runLine_typed :
    (runLine call sender ("/" ++ label ++ " " ++ text)).on world =
      match world.state.host.registry.command? (Host.bareLabel label) with
      | none => (.ok none, world)
      | some offer => (executeOn call offer.executor ⟨sender, text⟩ >>= fun success =>
          pure (some success)).on world := by
  unfold runLine
  rw [Host.splitLine_typed plain]
  dsimp only
  rw [on_bind_ok (on_see ..)]
  cases world.state.host.registry.command? (Host.bareLabel label) <;> rfl

theorem on_suggestLine_typed :
    (suggestLine call sender ("/" ++ label ++ " " ++ text)).on world =
      match world.state.host.registry.command? (Host.bareLabel label) with
      | none => (.ok [], world)
      | some offer => (suggestOn call offer.executor ⟨sender, text⟩).on world := by
  unfold suggestLine
  rw [Host.splitLine_typed plain]
  dsimp only
  rw [on_bind_ok (on_see ..)]
  cases world.state.host.registry.command? (Host.bareLabel label) <;> rfl

end

end Action

/-- What a line comes to if it is for one command: that command runs it and completes it, with a
text, and no other command answers to the label. -/
structure World.Serves (call : Caller Memory) (world : World Memory) (label : String)
    (line : Line) (typed : String) (offer : Offer) : Prop where
  alone : ∀ other ∈ world.state.host.registry.commands, other.answersTo label = true →
    other = offer
  runs : offer.executor.Runs call world line ((Action.runLine call line.sender typed).on world)
  suggests : offer.executor.Suggests call world line
    ((Action.suggestLine call line.sender typed).on world)

/-- In a state that a world can come to, some command of the host, a label that it answers to in
whatever letter case and in which there is no blank, any sender and any text. A line is made of a
slash, the label, a blank and the text. If the label does not begin with a slash itself, the
command runs the line, once, and completes it, with exactly the text, and no other command
answers to the label. In any case that is so if the command also answers to what is left of the
label when it is read without the slashes at its front. If it does not, the line is another
command's that does, or nobody's, and then nothing happens. -/
theorem typed_label_reaches_its_command (call : Caller Memory) {world : World Memory}
    (reachable : world.state.Reachable) {offer : Offer}
    (member : offer ∈ world.state.host.registry.commands) {label : String}
    (answers : offer.answersTo label = true) (plain : ∀ c ∈ label.toList, isBlank c = false)
    (sender : Sender) (text : String) :
    let bare := Host.bareLabel label
    let typed := "/" ++ label ++ " " ++ text
    (label.toList.head? ≠ some '/' → world.Serves call label ⟨sender, text⟩ typed offer) ∧
    (offer.answersTo bare = true → world.Serves call bare ⟨sender, text⟩ typed offer) ∧
    (offer.answersTo bare = false →
      (∃ other ∈ world.state.host.registry.commands, other ≠ offer ∧
        other.answersTo bare = true ∧ world.Serves call bare ⟨sender, text⟩ typed other) ∨
      (∀ other ∈ world.state.host.registry.commands, other.answersTo bare = false) ∧
        (Action.runLine call sender typed).on world = (.ok none, world) ∧
        (Action.suggestLine call sender typed).on world = (.ok [], world)) := by
  intro bare typed
  have sound := (State.Reachable.owned reachable).sound
  have ran := Action.on_runLine_typed call sender world plain text
  have suggested := Action.on_suggestLine_typed call sender world plain text
  have serves (runner : Offer) (there : runner ∈ world.state.host.registry.commands)
      (named : runner.answersTo bare = true) :
      world.Serves call bare ⟨sender, text⟩ typed runner := by
    have alone : ∀ other ∈ world.state.host.registry.commands, other.answersTo bare = true →
        other = runner := fun other among too => sound.unique among there too named
    have found : world.state.host.registry.command? bare = some runner :=
      find?_of_only there named alone
    rw [found] at ran suggested
    refine ⟨alone, ?_, ?_⟩
    · rw [ran]
      exact Action.runs_executor call runner.executor ⟨sender, text⟩
    · rw [suggested]
      exact Action.suggests_executor call runner.executor ⟨sender, text⟩
  refine ⟨fun plainly => ?_, serves offer member, fun silent => ?_⟩
  · have same : bare = label := Host.bareLabel_eq plainly
    exact same ▸ serves offer member (same ▸ answers)
  cases found : world.state.host.registry.command? bare with
  | some other =>
    have there := List.mem_of_find?_eq_some found
    unfold Host.Registry.command? at found
    have named := List.find?_some found
    refine .inl ⟨other, there, ?_, named, serves other there named⟩
    rintro rfl
    cases silent.symm.trans named
  | none =>
    rw [found] at ran suggested
    refine .inr ⟨fun other among => ?_, ran, suggested⟩
    simpa using List.find?_eq_none.mp found other among

/-- A command of the host that completes with the name of a tool. -/
def wand : Code Unit :=
  .hostCommand (fun _ => .finish true) fun _ => .finish ["axe"]

/-- The host's only command, under a name that begins with a slash. -/
def wandWorld (aliases : List String) : World Unit :=
  ⟨(State.initial .server ⟨.empty, [], "/", "/"⟩).change (.offer "edit" "/wand" aliases 0), (),
    [wand]⟩

/-- With an alias that is the name without its slash, the name reaches the command as well. -/
theorem aliased_name_reaches_its_command :
    let world := wandWorld ["Wand"]
    let offer : Offer := ⟨"edit", "/wand", ["Wand"], .code 0⟩
    offer ∈ world.state.host.registry.commands ∧ offer.answersTo "/WAND" = true ∧
      (∀ c ∈ "/WAND".toList, isBlank c = false) ∧
      world.Serves (callWithin 1) "WAND" ⟨.console, " axe"⟩ "//WAND  axe" offer ∧
      ((Action.runLine (callWithin 1) .console "//WAND  axe").on world).1 = .ok (some true) := by
  intro world offer
  have reachable : world.state.Reachable :=
    ⟨.server, ⟨.empty, [], "/", "/"⟩, State.changed _ (.offer "edit" "/wand" ["Wand"] 0)⟩
  have member : offer ∈ world.state.host.registry.commands := by decide +kernel
  have answers : offer.answersTo "/WAND" = true := by decide +kernel
  have plain : ∀ c ∈ "/WAND".toList, isBlank c = false :=
    List.all_iff_forall_prop.mp (by decide +kernel)
  have bare : Host.bareLabel "/WAND" = "WAND" := by decide +kernel
  obtain ⟨-, serves, -⟩ := typed_label_reaches_its_command (callWithin 1) reachable member answers
    plain .console " axe"
  rw [bare] at serves
  exact ⟨member, answers, plain, serves (by decide +kernel), by decide +kernel⟩

/-- Without such an alias nothing that is typed before a blank is the label: the line is
nobody's. -/
theorem slashed_name_is_out_of_reach :
    let world := wandWorld []
    world.state.host.registry.commands.any (·.answersTo "/wand") = true ∧
      (∀ c ∈ "/wand".toList, isBlank c = false) ∧
      ((Action.runLine (callWithin 1) .console ("/" ++ "/wand" ++ " " ++ "axe")).on world).1 =
        .ok none ∧
      ((Action.runLine (callWithin 1) .console "//wand axe").on world).2.state.history.length = 0 ∧
      ((Action.suggestLine (callWithin 1) .console "//wand axe").on world).1 = .ok [] :=
  ⟨by decide +kernel, List.all_iff_forall_prop.mp (by decide +kernel), by decide +kernel,
    by decide +kernel, by decide +kernel⟩

end PluginBridge
