import PluginBridge.Proofs.World.Laws

/-! What keeps a law. If single changes do, and the turns in the life of a plugin, then
everything does that programs can do: each action, each request, programs themselves, calls
of any depth and whole runs. -/
namespace PluginBridge
variable {Memory α β : Type}

/-! ## Actions -/

namespace Action
open Host (PlayerId ServerId Listener)
open Plugin
variable {law : World.Law Memory}

theorem Keeps.upholds {action : Action Memory α} {start : World Memory}
    (keeps : action.Keeps law) : action.Upholds law start :=
  ⟨fun world comes => law.trans comes (keeps.comes world)⟩

/-- What an action comes to that goes on where another one has returned. -/
theorem comes_bind {action : Action Memory α} {next : α → Action Memory β}
    {start world : World Memory} (first : law.comes start (action.on world).2)
    (rest : ∀ answer, (next answer).Upholds law start) :
    law.comes start ((action >>= next).on world).2 := by
  rw [on_bind]
  generalize action.on world = ran at first ⊢
  rcases ran with ⟨stop | answer, between⟩
  · exact first
  · exact (rest answer).comes between first

theorem Upholds.bind {action : Action Memory α} {next : α → Action Memory β}
    {start : World Memory} (first : action.Upholds law start)
    (rest : ∀ answer, (next answer).Upholds law start) : (action >>= next).Upholds law start :=
  ⟨fun world comes => comes_bind (first.comes world comes) rest⟩

theorem Keeps.bind {action : Action Memory α} {next : α → Action Memory β}
    (first : action.Keeps law) (rest : ∀ answer, (next answer).Keeps law) :
    (action >>= next).Keeps law :=
  ⟨fun world => (first.upholds.bind fun answer => (rest answer).upholds).comes world
    (law.refl world)⟩

theorem Keeps.left {action : Action Memory α} (keeps : action.Keeps law)
    {world left : World Memory} {ending : Except Stop α} (ran : action.on world = (ending, left)) :
    law.comes world left := by
  have comes := keeps.comes world
  rwa [ran] at comes

theorem keeps_pure (answer : α) : (pure answer : Action Memory α).Keeps law :=
  ⟨fun world => law.refl world⟩

theorem keeps_throw (stop : Stop) : (throw stop : Action Memory α).Keeps law :=
  ⟨fun world => law.refl world⟩

theorem keeps_see (view : State → α) : (see view : Action Memory α).Keeps law :=
  ⟨fun world => law.refl world⟩

theorem keeps_incidental (change : Change) (incidental : change.isIncidental = true)
    (still : change.travels = false) : (update (·.change change) : Action Memory Unit).Keeps law :=
  ⟨fun world => law.incidental change world incidental still⟩

theorem keeps_log (record : Log.Record) : (log record : Action Memory Unit).Keeps law :=
  keeps_incidental (.log record) rfl rfl

theorem Keeps.caught {action : Action Memory α} (inner : action.Keeps law) :
    (caught action).Keeps law := by
  refine ⟨fun world => ?_⟩
  have begun := inner.comes world
  rw [on_caught]
  generalize action.on world = ran at begun ⊢
  rcases ran with ⟨(_ | _ | _) | _, after⟩ <;> exact begun

theorem keeps_tell (user : ChatUser) (message : String) :
    (tell user message : Action Memory Unit).Keeps law :=
  keeps_incidental (.tell user message) rfl rfl

theorem keeps_checkAll (user : ChatUser) (permissions : List Permission) :
    (checkAll user permissions : Action Memory Bool).Keeps law := by
  induction permissions with
  | nil => exact keeps_pure true
  | cons permission rest ih =>
    refine (keeps_see _).bind fun held => ?_
    split
    · exact ih
    · exact (keeps_tell user permission.denial).bind fun _ => keeps_pure false

theorem keeps_drop (player : PlayerId) (reason : String) :
    (drop player reason : Action Memory Unit).Keeps law :=
  keeps_incidental (.drop player reason) rfl rfl

theorem after_tryHost {ε : Type} (change : Host → Except ε (Host × α)) (world : World Memory) :
    ((tryHost change : Action Memory (Except ε α)).on world).2 =
      world.alter fun state => state.tried (change state.host) := by
  unfold tryHost
  rw [on_answer, World.alter, World.alter]
  cases change world.state.host <;> rfl

theorem after_unregisterAll (adapter : AdapterId) (world : World Memory) :
    ((answer (·.unregisterAll adapter) : Action Memory Nat).on world).2 =
      { world with state := ((world.state.adapter adapter).commands.map
        (Change.unregister adapter)).foldl State.change world.state } :=
  congrArg (fun state => { world with state }) (State.unregisterEach_eq adapter _ world.state)

theorem keeps_hookResult (plugin : String) (moment : Hook)
    (outcome : Except Payload (Except String Unit)) :
    (hookResult plugin moment outcome :
      Action Memory (Except LifecycleFailure Unit)).Keeps law := by
  unfold hookResult
  split
  · exact keeps_pure _
  · exact (keeps_log _).bind fun _ => keeps_pure _

theorem keeps_report (activity : String) (result : Option (Except LifecycleFailure Unit)) :
    (report activity result : Action Memory Unit).Keeps law := by
  unfold report
  split
  · exact keeps_log _
  · exact keeps_pure ()

theorem core_of_reachable {state : State} {core : CoreId} {known : Core} {stage : Stage}
    (there : reachable? state core = some (known, stage)) : state.cores[core]? = some known := by
  simp only [reachable?, Option.bind_eq_bind, Option.bind_eq_some_iff] at there
  obtain ⟨found, listed, there⟩ := there
  split at there
  · cases there
  · obtain ⟨_, -, there⟩ := Option.bind_eq_some_iff.mp there
    cases there
    exact listed

section
variable {call : Caller Memory} (steady : Caller.Keeps law call)
include steady

/-- Calling code for which the note of the call is granted. -/
theorem attempt_comes {code : CodeId} {role : Role} {input : role.Input} {subject : role.Subject}
    {world : World Memory} (noted : law.Grants world.state (.note (.called code role input))) :
    law.comes world ((attempt call code role input subject).on world).2 := by
  rw [on_attempt_caught]
  exact law.trans (noted world rfl) (steady.comes code role input subject _)

theorem keeps_attempt (code : CodeId) (role : Role) (input : role.Input)
    (subject : role.Subject) (plain : role.isHook = false) :
    (attempt call code role input subject).Keeps law :=
  ⟨fun _ => attempt_comes steady fun world _ => law.incidental (.note (.called code role input))
    world (by simp [Change.isIncidental, Happening.callsHook, plain]) rfl⟩

theorem keeps_demand (code : CodeId) (role : Role) (input : role.Input)
    (subject : role.Subject) (plain : role.isHook = false) :
    (demand call code role input subject).Keeps law := by
  refine (keeps_attempt steady code role input subject plain).bind fun ended => ?_
  split
  · exact keeps_pure _
  · exact keeps_throw _

theorem keeps_deliverTo (listener : Subscription) (event : Event) :
    (deliverTo call listener event).Keeps law := by
  refine (keeps_attempt steady _ _ _ _ rfl).bind fun ended => ?_
  rcases ended with ⟨payload | message | _, edited⟩
  · exact (keeps_log _).bind fun _ => keeps_pure edited
  · exact (keeps_log _).bind fun _ => keeps_pure edited
  · exact keeps_pure edited

theorem keeps_deliver (listeners : List Subscription) (event : Event) :
    (deliver call listeners event).Keeps law := by
  induction listeners generalizing event with
  | nil => exact keeps_pure event
  | cons listener rest ih => exact (keeps_deliverTo steady listener event).bind ih

theorem keeps_dispatch (adapter : AdapterId) (event : Event) :
    (dispatch call adapter event).Keeps law :=
  (keeps_incidental (.note (.dispatched adapter event)) rfl rfl).bind fun _ =>
    (keeps_see _).bind fun listeners => keeps_deliver steady listeners event

theorem keeps_bridge (adapter : AdapterId) (source : String)
    (unified : Except UnifyFailure Event) : (bridge call adapter source unified).Keeps law := by
  cases unified with
  | error failure =>
    refine (keeps_see _).bind fun known => (keeps_log _).bind fun _ => keeps_pure none
  | ok event =>
    refine (keeps_dispatch steady adapter event).bind fun outcome =>
      (keeps_see _).bind fun known => ?_
    split
    · exact (keeps_log _).bind fun _ => keeps_pure (some outcome)
    · exact keeps_pure (some outcome)

theorem keeps_runHandler (handler : CodeId) (invocation : Invocation) (title : String)
    (names : List (String × Value)) :
    (runHandler call handler invocation title names).Keeps law := by
  refine (keeps_demand steady _ _ _ _ rfl).bind fun ended => ?_
  split
  · exact keeps_pure ()
  · exact (keeps_see _).bind fun sender => (keeps_log _).bind fun _ =>
      keeps_tell invocation.sender Command.errorMessage

theorem keeps_runSubCommand (command : Command) (invocation : Invocation) (label : String) :
    (runSubCommand call command invocation label).Keeps law := by
  unfold runSubCommand
  split
  · exact keeps_pure true
  · refine (keeps_checkAll ..).bind fun permitted => ?_
    split
    · exact (keeps_runHandler steady ..).bind fun _ => keeps_pure false
    · exact (keeps_pure ()).bind fun _ => keeps_pure false

theorem keeps_runBase (command : Command) (invocation : Invocation) :
    (runBase call command invocation).Keeps law := by
  refine (keeps_checkAll ..).bind fun permitted => ?_
  split
  · exact keeps_runHandler steady ..
  · exact keeps_pure ()

theorem keeps_invoke (command : Command) (user : ChatUser) (text : String) :
    (invoke call command user text).Keeps law := by
  have base (arguments : List String) (fallsBack : Bool) :
      (if fallsBack then runBase call command ⟨user, arguments, command.name⟩
        else pure ()).Keeps law := by
    split
    · exact keeps_runBase steady ..
    · exact keeps_pure ()
  refine Keeps.bind (.caught ?_) fun outcome => ?_
  · dsimp only
    split
    · exact (keeps_pure true).bind (base _)
    · exact (keeps_runSubCommand steady ..).bind (base _)
  · split
    · exact keeps_pure ()
    · exact (keeps_see _).bind fun sender => (keeps_log _).bind fun _ =>
        keeps_tell user Command.errorMessage

theorem keeps_completeStandard (command : Command) (invocation : Invocation) :
    (completeStandard call command invocation).Keeps law := by
  refine (keeps_see _).bind fun host => ?_
  dsimp only
  split
  · exact keeps_pure []
  · split
    · exact keeps_pure _
    · exact keeps_pure _
    · split
      · exact keeps_pure []
      · exact (keeps_demand steady _ _ _ _ rfl).bind fun _ => keeps_pure _

theorem keeps_completeArguments (command : Command) (invocation : Invocation) :
    (completeArguments call command invocation).Keeps law := by
  unfold completeArguments
  split
  · exact (keeps_demand steady _ _ _ _ rfl).bind fun _ => keeps_pure _
  · exact keeps_completeStandard steady command invocation

theorem keeps_complete (command : Command) (user : ChatUser) (text : String) :
    (complete call command user text).Keeps law := by
  refine (Keeps.caught (keeps_completeArguments steady ..)).bind fun outcome => ?_
  split
  · exact keeps_pure _
  · exact (keeps_see _).bind fun sender => (keeps_log _).bind fun _ => keeps_pure []

theorem keeps_executeOn (executor : Host.Executor) (line : Line) :
    (executeOn call executor line).Keeps law := by
  cases executor with
  | code id => exact (keeps_demand steady _ _ _ _ rfl).bind fun _ => keeps_pure _
  | adapter id command =>
    exact (keeps_see _).bind fun known => (keeps_invoke steady ..).bind fun _ =>
      keeps_pure true

theorem keeps_suggestOn (executor : Host.Executor) (line : Line) :
    (suggestOn call executor line).Keeps law := by
  cases executor with
  | code id => exact (keeps_demand steady _ _ _ _ rfl).bind fun _ => keeps_pure _
  | adapter id command => exact (keeps_see _).bind fun known => keeps_complete steady ..

theorem keeps_runLine (sender : Host.Sender) (line : String) :
    (runLine call sender line).Keeps law := by
  refine (keeps_see _).bind fun command => ?_
  split
  · exact keeps_pure none
  · exact (keeps_executeOn steady ..).bind fun _ => keeps_pure _

theorem keeps_suggestLine (sender : Host.Sender) (line : String) :
    (suggestLine call sender line).Keeps law := by
  unfold suggestLine
  split
  · exact keeps_pure []
  · refine (keeps_see _).bind fun command => ?_
    split
    · exact keeps_pure []
    · exact keeps_suggestOn steady ..

section
variable {turnAway : PlayerId → String → Action Memory Unit}
  (turning : ∀ player reason, (turnAway player reason).Keeps law)
include turning

theorem keeps_pass (adapter : AdapterId) (event : HostEvent) :
    (pass call turnAway adapter event).Keeps law := by
  refine (keeps_see _).bind fun kind => (keeps_bridge steady ..).bind fun outcome => ?_
  split
  · exact keeps_pure event
  · split
    · exact (turning _ _).bind fun _ => keeps_pure _
    · exact (keeps_pure ()).bind fun _ => keeps_pure _

theorem keeps_hand (listener : Listener) (event : HostEvent) :
    (hand call turnAway listener event).Keeps law := by
  unfold hand
  split
  · exact (keeps_demand steady _ _ _ _ rfl).bind fun _ => keeps_pure _
  · exact keeps_pass steady turning _ event

theorem keeps_handAll (listeners : List Listener) (event : HostEvent) :
    (handAll call turnAway listeners event).Keeps law := by
  induction listeners generalizing event with
  | nil => exact keeps_pure event
  | cons listener rest ih => exact (keeps_hand steady turning listener event).bind ih

/-- Firing an event, once the host has begun to. -/
theorem fireWith_comes {start world : World Memory} {event : HostEvent}
    (begun : law.comes start (world.alter (·.note (.fired event)))) :
    law.comes start ((fireWith call turnAway event).on world).2 := by
  unfold fireWith
  rw [on_bind_ok (on_note ..)]
  exact law.trans begun (((keeps_see _).bind fun listeners =>
    keeps_handAll steady turning listeners event).comes _)

end

theorem remove_comes {world : World Memory} {player : PlayerId}
    (lost : world.state.host.isConnected player = false) :
    law.comes world ((remove call player).on world).2 := by
  unfold remove updateHost
  rw [on_bind_ok (on_see ..)]
  split
  · next listed =>
    have left := law.left player world (List.contains_iff_mem.mp listed) lost
    rw [on_bind_ok (on_update ..)]
    exact comes_bind (fireWith_comes steady (fun _ _ => keeps_pure ()) left)
      fun _ => (keeps_pure ()).upholds
  · exact law.refl world

theorem keeps_disconnect (player : PlayerId) (reason : String) :
    (disconnect call player reason).Keeps law := by
  refine ⟨fun world => ?_⟩
  have dropped := law.incidental (.drop player reason) world rfl rfl
  unfold disconnect drop updateHost
  rw [on_bind_ok (on_update ..)]
  exact law.trans dropped
    (remove_comes steady (Host.isConnected_disconnect world.state.host player reason))

theorem keeps_fire {event : HostEvent} (quiet : event.isTravel = false) :
    (fire call event).Keeps law :=
  ⟨fun world => fireWith_comes steady (keeps_disconnect steady)
    (law.incidental (.note (.fired event)) world rfl quiet)⟩

/-- A player who has lost the connection while joining is taken off the list. -/
theorem keeps_settled (player : PlayerId) :
    (see (·.host.isConnected player) >>= fun connected =>
      if !connected then remove call player >>= fun _ => pure player
      else pure player : Action Memory PlayerId).Keeps law := by
  refine ⟨fun world => ?_⟩
  rw [on_bind_ok (on_see ..)]
  split
  · next lost =>
    exact comes_bind (remove_comes steady (by simpa using lost)) fun _ => (keeps_pure _).upholds
  · exact law.refl world

theorem keeps_join (name : String) : (join call name).Keeps law := by
  refine ⟨fun world => ?_⟩
  unfold join answerHost
  rw [on_bind_ok (on_answer ..), on_bind_ok (on_log ..)]
  exact comes_bind (fireWith_comes steady (keeps_disconnect steady) (law.arrived name world))
    fun _ => (keeps_settled steady _).upholds

theorem keeps_chat (player : PlayerId) (message : String) :
    (chat call player message).Keeps law := by
  refine (keeps_fire steady rfl).bind fun event => ?_
  split
  · refine Keeps.bind ⟨fun world => ?_⟩ fun _ => keeps_pure _
    exact law.pursue (State.broadcast_reaches (fun _ _ => ⟨rfl, rfl⟩) _ world.state)
  · exact keeps_pure none

theorem keeps_kick (player : PlayerId) (reason : String) :
    (kick call player reason).Keeps law :=
  (keeps_fire steady rfl).bind fun _ => keeps_disconnect steady player reason

/-- What a switch comes to once the player is on the server and the host has begun to fire
that. -/
theorem switch_comes (player : PlayerId) (server : ServerId) (world : World Memory) :
    law.comes (world.alter (·.moved player server)) ((switch call player server).on world).2 := by
  unfold switch updateHost
  rw [on_bind_ok (on_see ..), on_bind_ok (on_update ..)]
  exact comes_bind (fireWith_comes steady (keeps_disconnect steady) (law.refl _))
    fun _ => (keeps_pure ()).upholds

theorem keeps_switch (player : PlayerId) (server : ServerId) :
    (switch call player server).Keeps law :=
  ⟨fun world => law.trans (law.moved player server world) (switch_comes steady player server world)⟩

theorem keeps_connect (player : PlayerId) (server : ServerId) :
    (connect call player server).Keeps law := by
  refine (keeps_see _).bind fun host => ?_
  split
  · exact keeps_switch steady player _
  · exact keeps_log _

theorem keeps_obey (event : Event) : (obey call event).Keeps law := by
  unfold obey
  split
  · exact (keeps_disconnect steady ..).bind fun _ => keeps_pure true
  · exact keeps_pure false

/-! ## The life of a plugin -/

theorem keeps_runHook {core : CoreId} (indulges : law.Indulges core) (known : Core)
    (moment : Hook) : (runHook call core known moment).Keeps law := by
  have setBusy (busy : Bool) : (update (·.updateCore core fun known => { known with busy }) :
      Action Memory Unit).Keeps law :=
    ⟨fun world => indulges.busy world.state busy world rfl⟩
  refine (setBusy true).bind fun _ => Keeps.bind ⟨fun world => ?_⟩ fun _ =>
    (setBusy false).bind fun _ => keeps_pure _
  exact attempt_comes steady (indulges.hooked world.state known.code moment)

section
variable {core : CoreId} {known : Core} {start : World Memory} (indulges : law.Indulges core)
  (serves : ∀ later, law.comes start later → ∀ change : Change,
    change.adapter? = some known.adapter → law.Grants later.state change)
include indulges serves

theorem upholds_enableCore : (enableCore call core known).Upholds law start := by
  have attaching : (answer (·.attach known.adapter) :
      Action Memory (Except AdapterFailure Unit)).Upholds law start :=
    ⟨fun world comes => law.trans comes (serves world comes (.attach known.adapter) rfl world rfl)⟩
  have detaching : (update (·.detach known.adapter) : Action Memory Unit).Upholds law start :=
    ⟨fun world comes => law.trans comes (serves world comes (.detach known.adapter) rfl world rfl)⟩
  refine attaching.bind fun attached => ?_
  split
  · exact (keeps_log _).upholds.bind fun _ => detaching.bind fun _ => (keeps_pure _).upholds
  · refine Keeps.upholds (Keeps.bind ⟨fun world => indulges.staged _ .enabled world rfl⟩ fun _ =>
      (keeps_runHook steady indulges known .enable).bind fun outcome =>
        (keeps_hookResult known.data.id .enable outcome).bind fun result => ?_)
    split
    · exact (keeps_log _).bind fun _ => keeps_pure result
    · exact keeps_pure result

theorem upholds_disableCore : (disableCore call core known).Upholds law start := by
  have detaching : (update (·.detach known.adapter) : Action Memory Unit).Upholds law start :=
    ⟨fun world comes => law.trans comes (serves world comes (.detach known.adapter) rfl world rfl)⟩
  have silencing : (answer (·.unsubscribeOwner known.adapter known.data.id) :
      Action Memory Nat).Upholds law start :=
    ⟨fun world comes => law.trans comes
      (serves world comes (.unsubscribeOwner known.adapter known.data.id) rfl world rfl)⟩
  have emptying : (answer (·.unregisterAll known.adapter) :
      Action Memory Nat).Upholds law start := by
    refine ⟨fun world comes => ?_⟩
    rw [after_unregisterAll]
    refine law.onward (fun later reached change member => ?_) comes
    obtain ⟨name, -, rfl⟩ := List.mem_map.mp member
    exact serves later reached (.unregister known.adapter name) rfl
  refine (keeps_runHook steady indulges known .disable).upholds.bind fun outcome =>
    detaching.bind fun _ => silencing.bind fun listeners => emptying.bind fun commands =>
      Keeps.upholds (Keeps.bind ⟨fun world => indulges.staged _ .disabled world rfl⟩ fun _ =>
        (keeps_log _).bind fun _ => (keeps_hookResult known.data.id .disable outcome).bind
          fun result => (keeps_log _).bind fun _ => keeps_pure result)

end

theorem enable_comes {core : CoreId} {world : World Memory} (indulges : law.Indulges core)
    (serves : ∀ known, world.state.cores[core]? = some known →
      ∀ later, law.comes world later → ∀ change : Change,
        change.adapter? = some known.adapter → law.Grants later.state change) :
    law.comes world ((enable call core).on world).2 := by
  unfold enable
  rw [on_bind_ok (on_see ..)]
  split
  · exact law.refl world
  · next known there =>
    exact ((upholds_enableCore steady indulges (serves known (core_of_reachable there))).bind
      fun _ => (keeps_pure _).upholds).comes world (law.refl world)
  · exact law.refl world

theorem disable_comes {core : CoreId} {world : World Memory} (indulges : law.Indulges core)
    (serves : ∀ known, world.state.cores[core]? = some known →
      ∀ later, law.comes world later → ∀ change : Change,
        change.adapter? = some known.adapter → law.Grants later.state change) :
    law.comes world ((disable call core).on world).2 := by
  unfold disable
  rw [on_bind_ok (on_see ..)]
  split
  · exact law.refl world
  · next known there =>
    exact ((upholds_disableCore steady indulges (serves known (core_of_reachable there))).bind
      fun _ => (keeps_pure _).upholds).comes world (law.refl world)
  · exact law.refl world

theorem construct_comes {order : LoadOrder} {settings : Settings.Loaded} {world : World Memory}
    (constructs : law.Grants world.state
      (.construct platformName order.data settings order.code))
    (indulges : law.Indulges world.state.cores.length) :
    law.comes world ((construct call order settings).on world).2 := by
  unfold construct
  rw [on_bind_ok (on_answer ..), on_bind_ok (on_answer ..)]
  refine law.trans (constructs world rfl)
    (Keeps.comes (Keeps.bind ⟨fun later => ?_⟩ fun ended => ?_) _)
  · exact attempt_comes steady (indulges.hooked later.state order.code .create)
  · split
    · exact (keeps_log _).bind fun _ => Keeps.bind
        ⟨fun later => indulges.staged _ .loaded later rfl⟩ fun _ => keeps_pure _
    · exact (keeps_log _).bind fun _ => keeps_pure _
    · exact (keeps_log _).bind fun _ => keeps_pure _

end

theorem keeps_logAll (records : List Log.Record) :
    (update (·.logAll records) : Action Memory Unit).Keeps law :=
  ⟨fun world => law.pursue (State.logAll_reaches (fun _ => ⟨rfl, rfl⟩) records world.state)⟩

theorem keeps_load {call : Caller Memory}
    (constructs : ∀ order settings, (construct call order settings).Keeps law)
    (order : LoadOrder) : (load call order).Keeps law := by
  refine (keeps_see _).bind fun surroundings => (keeps_logAll _).bind fun _ => ?_
  split
  · exact keeps_pure _
  · refine (keeps_logAll _).bind fun _ => ?_
    split
    · exact keeps_pure _
    · exact constructs ..

theorem keeps_enableEntry {call : Caller Memory} {entry : EntryId}
    (used : ∀ state, law.Grants state (.useEntry entry))
    (tied : ∀ state core, law.Grants state (.tie entry core))
    (loads : ∀ order, (load call order).Keeps law)
    (enables : ∀ core, (enable call core).Keeps law) :
    (enableEntry call entry).Keeps law := by
  refine (keeps_see _).bind fun entries => ?_
  split
  · exact keeps_pure ()
  · split
    · exact keeps_pure ()
    · refine Keeps.bind ⟨fun world => used _ world rfl⟩ fun _ => (loads _).bind fun loaded => ?_
      split
      · exact keeps_log _
      · exact Keeps.bind ⟨fun world => tied _ _ world rfl⟩ fun _ =>
          (enables _).bind fun _ => keeps_report ..

theorem keeps_disableEntry {call : Caller Memory}
    (disables : ∀ core, (disable call core).Keeps law) (entry : EntryId) :
    (disableEntry call entry).Keeps law := by
  refine (keeps_see _).bind fun entries => ?_
  split
  · exact keeps_pure ()
  · exact (disables _).bind fun _ => keeps_report ..

end Action

/-- The law is kept in all turns of a plugin's life. -/
structure World.Law.Living (law : World.Law Memory) : Prop where
  construct {call : Caller Memory} (steady : call.Keeps law) (order : LoadOrder)
    (settings : Settings.Loaded) : (Action.construct call order settings).Keeps law
  enable {call : Caller Memory} (steady : call.Keeps law) (core : Plugin.CoreId) :
    (Action.enable call core).Keeps law
  disable {call : Caller Memory} (steady : call.Keeps law) (core : Plugin.CoreId) :
    (Action.disable call core).Keeps law
  enableEntry {call : Caller Memory} (steady : call.Keeps law) (entry : Plugin.EntryId) :
    (Action.enableEntry call entry).Keeps law

/-- A law that has nothing against entry points being used is kept in all turns, if it is
kept in those of cores. -/
theorem World.Law.Living.of_cores {law : World.Law Memory}
    (used : ∀ state entry, law.Grants state (.useEntry entry))
    (tied : ∀ state entry core, law.Grants state (.tie entry core))
    (construct : ∀ {call : Caller Memory}, call.Keeps law → ∀ order settings,
      (Action.construct call order settings).Keeps law)
    (enable : ∀ {call : Caller Memory}, call.Keeps law → ∀ core,
      (Action.enable call core).Keeps law)
    (disable : ∀ {call : Caller Memory}, call.Keeps law → ∀ core,
      (Action.disable call core).Keeps law) : law.Living where
  construct := construct
  enable := enable
  disable := disable
  enableEntry steady entry := Action.keeps_enableEntry (fun state => used state entry)
    (fun state => tied state entry) (Action.keeps_load (construct steady)) (enable steady)

/-- A law is kept in all turns that has nothing against single changes, except those by which
players come and go. -/
theorem World.Law.Living.of_grants {law : World.Law Memory}
    (grants : ∀ state change, change.travels = false → law.Grants state change) : law.Living := by
  have indulges (core : Plugin.CoreId) : law.Indulges core :=
    ⟨fun state _ => grants state _ rfl, fun state _ => grants state _ rfl,
      fun state _ _ => grants state _ rfl⟩
  have serves (state : State) (change : Change) {adapter : AdapterId}
      (serves : change.adapter? = some adapter) : law.Grants state change :=
    grants state change (by cases change <;> first | rfl | cases serves)
  exact .of_cores (fun state _ => grants state _ rfl) (fun state _ _ => grants state _ rfl)
    (fun steady _ _ => ⟨fun _ => Action.construct_comes steady (grants _ _ rfl) (indulges _)⟩)
    (fun steady core => ⟨fun _ => Action.enable_comes steady (indulges core)
      fun _ _ later _ change works => serves later.state change works⟩)
    (fun steady core => ⟨fun _ => Action.disable_comes steady (indulges core)
      fun _ _ later _ change works => serves later.state change works⟩)

/-! ## Requests, programs and whole runs -/

/-- An answer that shows the state shows it as it is. -/
theorem perform_shows (call : Caller Memory) (request : Request) (world : World Memory)
    {reply : request.Reply} {after : World Memory}
    (granted : (perform call request).on world = (.ok reply, after)) :
    ∀ known ∈ request.shown reply, known = after.state := by
  cases request with
  | look =>
    cases granted
    simp [Request.shown]
  | _ => simp [Request.shown]

section
variable {law : World.Law Memory} (living : law.Living)
include living

/-- Granting a request that the rule allows keeps the law, if calls do. -/
theorem perform_comes {call : Caller Memory} (steady : call.Keeps law) {request : Request}
    {world : World Memory} (allows : law.rule world.state request) :
    law.comes world ((perform call request).on world).2 := by
  have loads (order : LoadOrder) : (Action.load call order).Keeps law :=
    Action.keeps_load (living.construct steady) order
  open PluginBridge.Action in
  cases request with simp only [perform]
  | look => exact (keeps_see id).comes world
  | log record => exact (keeps_log record).comes world
  | join name => exact (keeps_join steady name).comes world
  | chat player message => exact (keeps_chat steady player message).comes world
  | quit player => exact (keeps_disconnect steady player quitReason).comes world
  | disconnect player reason => exact (keeps_disconnect steady player reason).comes world
  | kick player reason => exact (keeps_kick steady player reason).comes world
  | drop player reason => exact (keeps_drop player reason).comes world
  | switch player server => exact (keeps_switch steady player server).comes world
  | connect player server => exact (keeps_connect steady player server).comes world
  | tell user message => exact (keeps_tell user message).comes world
  | fire event =>
    exact fireWith_comes steady (keeps_disconnect steady) (law.fired event world allows)
  | runLine sender line => exact (keeps_runLine steady sender line).comes world
  | suggestLine sender line => exact (keeps_suggestLine steady sender line).comes world
  | bridge adapter source unified =>
    exact (keeps_bridge steady adapter source unified).comes world
  | dispatch adapter event => exact (keeps_dispatch steady adapter event).comes world
  | present code event => exact (keeps_demand steady code .hear () event rfl).comes world
  | obey event => exact (keeps_obey steady event).comes world
  | runSubCommand command invocation label =>
    exact (keeps_runSubCommand steady command invocation label).comes world
  | runBase command invocation => exact (keeps_runBase steady command invocation).comes world
  | completeArguments command invocation =>
    exact (keeps_completeArguments steady command invocation).comes world
  | invoke command user text => exact (keeps_invoke steady command user text).comes world
  | complete command user text => exact (keeps_complete steady command user text).comes world
  | load order => exact (loads order).comes world
  | enable core => exact (living.enable steady core).comes world
  | disable core => exact (living.disable steady core).comes world
  | enableEntry entry => exact (living.enableEntry steady entry).comes world
  | disableEntry entry => exact (keeps_disableEntry (living.disable steady) entry).comes world
  | listen owner kind code =>
    rw [after_tryHost]
    exact law.asked (.listen owner kind code) world allows
  | offer owner name aliases code =>
    rw [after_tryHost]
    exact law.asked (.offer owner name aliases code) world allows
  | unregisterAll adapter =>
    rw [after_unregisterAll]
    exact law.asked (.unregisterAll adapter) world allows
  | _ => exact law.asked _ world allows

/-- A program that heeds the rule keeps the law, if calls do. -/
theorem Program.run_comes {call : Caller Memory} (steady : call.Keeps law) {role : Role}
    (program : Program Memory role) {seen : Option State} (heeds : program.Heeds law.rule seen)
    (subject : role.Subject) (world : World Memory)
    (knows : ∀ known ∈ seen, known = world.state) :
    law.comes world ((program.run call subject).run world).2 := by
  induction program generalizing world seen with
  | finish result => exact law.refl world
  | panic payload => exact law.refl world
  | recollect next ih => exact ih world.memory (heeds _) subject world knows
  | remember change next ih =>
    exact law.trans (law.remembered world (change world.memory)) (ih heeds subject _ knows)
  | observe next ih => exact ih subject (heeds subject) subject world knows
  | edit change next ih =>
    simp only [run]
    split
    · exact ih _ (heeds _) _ world knows
    · exact ih _ (heeds _) _ world knows
  | define code next _ ih =>
    exact law.trans (law.defined world code heeds.1) (ih _ (heeds.2 _) subject _ knows)
  | ask request next ih =>
    have granted := perform_comes living steady (heeds.1 world.state knows)
    have shown (reply : request.Reply) (after : World Memory)
        (same : (perform call request).on world = (.ok reply, after)) :=
      perform_shows call request world same
    rw [run_ask]
    generalize (perform call request).on world = ran at granted shown ⊢
    rcases ran with ⟨stop | reply, after⟩
    · exact granted
    · exact law.trans granted (ih reply (heeds.2 reply) subject after (shown reply after rfl))

theorem callWithin_keeps (depth : Nat) : (callWithin depth : Caller Memory).Keeps law := by
  induction depth with
  | zero => exact ⟨fun _ _ _ _ world => law.refl world⟩
  | succ depth ih =>
    refine ⟨fun code role input subject world => ?_⟩
    rw [callWithin_succ]
    cases there : world.shelf[code]? with
    | none => exact law.refl world
    | some written =>
      by_cases heeds : world.Heeds law.rule
      · exact Program.run_comes living ih _ (heeds written (List.mem_of_getElem? there) role input)
          subject world (by simp)
      · exact law.reckless heeds _

/-- What becomes of a world in which a program is run that heeds the rule. -/
theorem World.run_comes (world : World Memory) (depth : Nat) {program : Program Memory .main}
    (heeds : program.Heeds law.rule none) : law.comes world (world.run depth program).2 :=
  Program.run_comes living (callWithin_keeps living depth) program heeds () world (by simp)

end

end PluginBridge
