import PluginBridge.Proofs.State.Attachment
import PluginBridge.Proofs.World.Runs

/-! What enabling and disabling a core come to. A core that is out of reach or in the wrong
stage is left alone, and so is one whose adapter the host refuses; else the hook is called
once, and all that follows is told by how it ends. -/
namespace PluginBridge
open Plugin
variable {Memory : Type}

/-- What enabling or disabling answers when its hook has ended so. -/
def hookVerdict (plugin : String) (moment : Hook) (outcome : Except Payload (Except String Unit)) :
    Except LifecycleFailure Unit :=
  match Action.hookFault outcome with
  | none => .ok ()
  | some reason => .error (.hook plugin moment reason)

/-- The world a hook is called in, where its core is busy and the call is noted. -/
def World.hooking (world : World Memory) (core : CoreId) (known : Core) (moment : Hook) :
    World Memory :=
  (world.alter (·.updateCore core fun known => { known with busy := true })).alter
    (·.note (.called known.code (.hook moment) core))

/-- The world in which the hook of a core that is being enabled gets its turn. -/
def World.enabling (world : World Memory) (core : CoreId) (known : Core) : World Memory :=
  (world.alter fun state => (state.attach known.adapter).1).alter
    (·.updateCore core fun known => { known with stage := some .enabled })

namespace State

/-- The state once all that a plugin has registered is removed and its core counts as
disabled. -/
def dismantle (state : State) (core : CoreId) (known : Core) : State :=
  let state := state.detach known.adapter
  let state := (state.unsubscribeOwner known.adapter known.data.id).1
  let state := (state.unregisterAll known.adapter).1
  state.updateCore core fun known => { known with stage := some .disabled }

theorem dismantle_reaches {allowed : Change → Prop} (state : State) (core : CoreId) (known : Core)
    (detaches : allowed (.detach known.adapter))
    (silences : allowed (.unsubscribeOwner known.adapter known.data.id))
    (empties : ∀ name, allowed (.unregister known.adapter name))
    (staged : allowed (.setStage core .disabled)) :
    state.ReachesBy allowed (state.dismantle core known) :=
  .trans (.one state (.detach known.adapter) detaches)
    (.trans (.one _ (.unsubscribeOwner known.adapter known.data.id) silences)
      (.trans (unregisterEach_reaches empties _ _) (.one _ (.setStage core .disabled) staged)))

end State

/-- What is logged in several steps can be logged at once. -/
theorem World.alter_logAll_log (world : World Memory) (records : List Log.Record)
    (record : Log.Record) :
    (world.alter (·.logAll records)).alter (·.log record) =
      world.alter (·.logAll (records ++ [record])) := by
  simp [alter, State.log, State.logAll]

theorem World.alter_logs (world : World Memory) (first last : Log.Record)
    (between : List Log.Record) :
    ((world.alter (·.log first)).alter (·.logAll between)).alter (·.log last) =
      world.alter (·.logAll (first :: between ++ [last])) := by
  simp [alter, State.log, State.logAll]

namespace Action
variable {call : Caller Memory} {core : CoreId} {known : Core} {world : World Memory}

/-! ## Hooks -/

/-- A hook is called once. Unless the call is cut short, the core is free again after it. -/
theorem on_runHook (moment : Hook) (world : World Memory) :
    (runHook call core known moment).on world =
      let ran := (call known.code (.hook moment) core ()).run (world.hooking core known moment)
      match ran.1.caught with
      | .ok (outcome, _) => (.ok outcome, ran.2.alter (·.change (.setBusy core false)))
      | .error stop => (.error stop, ran.2) := by
  unfold runHook World.hooking
  rw [on_bind_ok (on_update ..), on_bind, on_attempt_caught]
  generalize (call known.code (.hook moment) core ()).run _ = ran
  dsimp only
  cases ran.1.caught <;> rfl

/-- What is logged about a hook that has ended so. -/
def hookRecords (moment : Hook) (outcome : Except Payload (Except String Unit)) :
    List Log.Record :=
  (hookFault outcome).toList.map fun reason => .error "Plugin lifecycle hook failed"
    [("operation", .text moment.name), ("error", .text reason)]

theorem on_hookResult (plugin : String) (moment : Hook)
    (outcome : Except Payload (Except String Unit)) (world : World Memory) :
    (hookResult plugin moment outcome).on world =
      (.ok (hookVerdict plugin moment outcome),
        world.alter (·.logAll (hookRecords moment outcome))) := by
  unfold hookResult hookVerdict hookRecords
  cases hookFault outcome with
  | none => simp [World.alter, State.logAll]
  | some reason => rfl

/-! ## Enabling -/

/-- What is logged when the host refuses the listeners of an adapter. -/
def refusalRecord (failure : AdapterFailure) : Log.Record :=
  .error "Failed to register platform listeners" [("error", .text failure.message)]

/-- If the host refuses the listeners, nothing happens but that this is logged. -/
theorem on_enableCore_refused {failure : AdapterFailure}
    (refused : (world.state.attach known.adapter).2 = .error failure) :
    (enableCore call core known).on world =
      (.ok (.error (.platform failure)), world.alter (·.log (refusalRecord failure))) := by
  obtain ⟨accepted, -⟩ | ⟨-, same, free⟩ := State.attach_outcome world.state known.adapter
  · rw [refused] at accepted
    cases accepted
  · have detached (record : Log.Record) :
        (world.state.log record).detach known.adapter = world.state.log record := by
      simp [State.detach, free]
    unfold enableCore
    rw [on_bind_ok (on_answer ..), refused]
    dsimp only
    rw [on_bind_ok (on_log ..), on_bind_ok (on_update ..)]
    simp only [World.alter, same, detached]
    rfl

section
variable (accepted : (world.state.attach known.adapter).2 = .ok ())
include accepted

/-- If it accepts them, the hook is called, and what it comes to is logged. -/
theorem on_enableCore_ok {outcome : Except Payload (Except String Unit)} {left : World Memory}
    (ran : (runHook call core known .enable).on (world.enabling core known) =
      (.ok outcome, left)) :
    ∃ records, (enableCore call core known).on world =
      (.ok (hookVerdict known.data.id .enable outcome), left.alter (·.logAll records)) := by
  unfold World.enabling at ran
  unfold enableCore
  rw [on_bind_ok (on_answer ..), accepted]
  dsimp only
  rw [on_bind_ok (on_update ..), on_bind_ok ran, on_bind_ok (on_hookResult ..)]
  cases hookVerdict known.data.id .enable outcome with
  | ok done =>
    exact ⟨hookRecords .enable outcome ++ [.info "Plugin enabled" []],
      congrArg (Prod.mk _) (by simp [World.alter, State.log, State.logAll])⟩
  | error failure => exact ⟨hookRecords .enable outcome, rfl⟩

theorem on_enableCore_error {stop : Stop} {left : World Memory}
    (ran : (runHook call core known .enable).on (world.enabling core known) =
      (.error stop, left)) :
    (enableCore call core known).on world = (.error stop, left) := by
  unfold World.enabling at ran
  unfold enableCore
  rw [on_bind_ok (on_answer ..), accepted]
  dsimp only
  rw [on_bind_ok (on_update ..), on_bind_error ran]

end

/-- A core that is out of reach is left alone. -/
theorem on_enable_beyond (beyond : reachable? world.state core = none) :
    (enable call core).on world = (.ok none, world) := by
  unfold enable
  rw [on_bind_ok (on_see ..), beyond]
  rfl

theorem on_enable_loaded (there : reachable? world.state core = some (known, .loaded)) :
    (enable call core).on world =
      match (enableCore call core known).on world with
      | (.ok result, after) => (.ok (some result), after)
      | (.error stop, after) => (.error stop, after) := by
  unfold enable
  rw [on_bind_ok (on_see ..), there]
  dsimp only
  rw [on_bind]
  rcases (enableCore call core known).on world with ⟨_ | _, _⟩ <;> rfl

/-- A core that is enabled or was is refused, and nothing happens. -/
theorem on_enable_refused {stage : Stage} (other : stage ≠ .loaded)
    (there : reachable? world.state core = some (known, stage)) :
    (enable call core).on world = (.ok (some (.error (.wrongStage .enable stage))), world) := by
  unfold enable
  rw [on_bind_ok (on_see ..), there]
  cases stage with
  | loaded => exact absurd rfl other
  | enabled => rfl
  | disabled => rfl

/-! ## Disabling -/

/-- Once the hook has returned, disabling dismantles what the plugin has registered and
writes to the log. -/
theorem on_disableCore_ok {outcome : Except Payload (Except String Unit)} {left : World Memory}
    (ran : (runHook call core known .disable).on world = (.ok outcome, left)) :
    ∃ records, (disableCore call core known).on world =
      (.ok (hookVerdict known.data.id .disable outcome),
        (left.alter (·.dismantle core known)).alter (·.logAll records)) := by
  unfold disableCore
  rw [on_bind_ok ran, on_bind_ok (on_update ..), on_bind_ok (on_answer ..),
    on_bind_ok (on_answer ..), on_bind_ok (on_update ..), on_bind_ok (on_log ..),
    on_bind_ok (on_hookResult ..), on_bind_ok (on_log ..)]
  exact ⟨_, congrArg (Prod.mk _) (World.alter_logs ..)⟩

theorem on_disableCore_error {stop : Stop} {left : World Memory}
    (ran : (runHook call core known .disable).on world = (.error stop, left)) :
    (disableCore call core known).on world = (.error stop, left) := by
  unfold disableCore
  rw [on_bind_error ran]

theorem on_disable_beyond (beyond : reachable? world.state core = none) :
    (disable call core).on world = (.ok none, world) := by
  unfold disable
  rw [on_bind_ok (on_see ..), beyond]
  rfl

/-- Disabling an enabled core means running its hook and then dismantling. -/
theorem on_disable_enabled {world : World Memory}
    (there : reachable? world.state core = some (known, .enabled)) :
    (disable call core).on world =
      match (disableCore call core known).on world with
      | (.ok result, after) => (.ok (some result), after)
      | (.error stop, after) => (.error stop, after) := by
  unfold disable
  rw [on_bind_ok (on_see ..), there]
  dsimp only
  rw [on_bind]
  rcases (disableCore call core known).on world with ⟨_ | _, _⟩ <;> rfl

/-- A core in any other stage is refused, and nothing happens. -/
theorem on_disable_refused {world : World Memory} {stage : Stage} (other : stage ≠ .enabled)
    (there : reachable? world.state core = some (known, stage)) :
    (disable call core).on world = (.ok (some (.error (.wrongStage .disable stage))), world) := by
  unfold disable
  rw [on_bind_ok (on_see ..), there]
  cases stage with
  | loaded => rfl
  | enabled => exact absurd rfl other
  | disabled => rfl

theorem hookVerdict_ne_wrongStage (plugin : String) (moment other : Hook) (stage : Stage)
    (outcome : Except Payload (Except String Unit)) :
    hookVerdict plugin moment outcome ≠ .error (.wrongStage other stage) := by
  unfold hookVerdict
  cases hookFault outcome <;> simp

/-! ## Calls that are cut short -/

end Action

/-- The call of some hook is cut short. -/
def Caller.Cuts (call : Caller Memory) (stop : Stop) : Prop :=
  ∃ code moment core start, ((call code (.hook moment) core ()).run start).1.caught = .error stop

/-- A panic does not cut the call of a hook short, because it is caught. -/
theorem Caller.Cuts.calm {call : Caller Memory} {stop : Stop} (cuts : call.Cuts stop)
    (payload : Payload) : stop ≠ .panic payload := by
  obtain ⟨code, moment, core, start, caught⟩ := cuts
  rintro rfl
  exact Called.caught_calm _ payload caught

namespace Action

/-- Nothing stops an action but the call of a hook that is cut short. -/
structure Calm {α : Type} (call : Caller Memory) (action : Action Memory α) : Prop where
  cuts (world : World Memory) (stop : Stop) (stopped : (action.on world).1 = .error stop) :
    call.Cuts stop

variable (call : Caller Memory) (core : CoreId)

section
variable {α β : Type} {call}

theorem Calm.bind {action : Action Memory α} {next : α → Action Memory β}
    (first : Calm call action) (rest : ∀ answer, Calm call (next answer)) :
    Calm call (action >>= next) := by
  refine ⟨fun world stop stopped => ?_⟩
  obtain early | ⟨answer, between, -, late⟩ := error_of_bind stopped
  · exact first.cuts world stop early
  · exact (rest answer).cuts between stop late

theorem calm_pure (answer : α) : Calm call (pure answer : Action Memory α) := ⟨fun _ _ => nofun⟩

theorem calm_see (view : State → α) : Calm call (see view : Action Memory α) := ⟨fun _ _ => nofun⟩

theorem calm_update (change : State → State) : Calm call (update change : Action Memory Unit) :=
  ⟨fun _ _ => nofun⟩

theorem calm_answer (change : State → State × α) : Calm call (answer change : Action Memory α) :=
  ⟨fun _ _ => nofun⟩

theorem calm_log (record : Log.Record) : Calm call (log record : Action Memory Unit) :=
  ⟨fun _ _ => nofun⟩

theorem calm_hookResult (plugin : String) (moment : Hook)
    (outcome : Except Payload (Except String Unit)) :
    Calm call (hookResult plugin moment outcome :
      Action Memory (Except LifecycleFailure Unit)) := by
  unfold hookResult
  split
  · exact calm_pure _
  · exact (calm_log _).bind fun _ => calm_pure _

theorem calm_report (activity : String) (result : Option (Except LifecycleFailure Unit)) :
    Calm call (report activity result : Action Memory Unit) := by
  unfold report
  split
  · exact calm_log _
  · exact calm_pure ()

end

theorem calm_attempt (code : CodeId) (moment : Hook) :
    Calm call (attempt call code (.hook moment) core ()) := by
  refine ⟨fun world stop stopped => ?_⟩
  rw [on_attempt_caught] at stopped
  exact ⟨code, moment, core, _, stopped⟩

theorem calm_runHook (known : Core) (moment : Hook) : Calm call (runHook call core known moment) :=
  (calm_update _).bind fun _ => (calm_attempt call ..).bind fun _ => (calm_update _).bind fun _ =>
    calm_pure _

theorem calm_enable : Calm call (enable call core) := by
  refine (calm_see _).bind fun found => ?_
  split
  · exact calm_pure none
  · refine Calm.bind ?_ fun _ => calm_pure _
    refine (calm_answer _).bind fun attached => ?_
    split
    · exact (calm_log _).bind fun _ => (calm_update _).bind fun _ => calm_pure _
    · refine (calm_update _).bind fun _ => (calm_runHook ..).bind fun _ =>
        (calm_hookResult ..).bind fun result => ?_
      split
      · exact (calm_log _).bind fun _ => calm_pure result
      · exact calm_pure result
  · exact calm_pure _

theorem calm_disable : Calm call (disable call core) := by
  refine (calm_see _).bind fun found => ?_
  split
  · exact calm_pure none
  · exact Calm.bind ((calm_runHook ..).bind fun _ => (calm_update _).bind fun _ =>
      (calm_answer _).bind fun _ => (calm_answer _).bind fun _ => (calm_update _).bind fun _ =>
        (calm_log _).bind fun _ => (calm_hookResult ..).bind fun _ => (calm_log _).bind fun _ =>
          calm_pure _) fun _ => calm_pure _
  · exact calm_pure _

theorem calm_load (order : LoadOrder) : Calm call (load call order) := by
  refine (calm_see _).bind fun surroundings => (calm_update _).bind fun _ => ?_
  split
  · exact calm_pure _
  · refine (calm_update _).bind fun _ => ?_
    split
    · exact calm_pure _
    · refine (calm_answer _).bind fun _ => (calm_answer _).bind fun core =>
        (calm_attempt call core ..).bind fun ended => ?_
      split
      · exact (calm_log _).bind fun _ => (calm_update _).bind fun _ => calm_pure _
      · exact (calm_log _).bind fun _ => calm_pure _
      · exact (calm_log _).bind fun _ => calm_pure _

theorem calm_enableEntry (entry : EntryId) : Calm call (enableEntry call entry) := by
  refine (calm_see _).bind fun entries => ?_
  split
  · exact calm_pure ()
  · split
    · exact calm_pure ()
    · refine (calm_update _).bind fun _ => (calm_load call _).bind fun loaded => ?_
      split
      · exact calm_log _
      · exact (calm_update _).bind fun _ => (calm_enable ..).bind fun _ => calm_report ..

theorem calm_disableEntry (entry : EntryId) : Calm call (disableEntry call entry) := by
  refine (calm_see _).bind fun entries => ?_
  split
  · exact calm_pure ()
  · exact (calm_disable ..).bind fun _ => calm_report ..

end Action
end PluginBridge
