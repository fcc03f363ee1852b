import PluginBridge.Proofs.Lifecycle.Load
import PluginBridge.Proofs.Lifecycle.Turns
import PluginBridge.Proofs.State.Phases
import PluginBridge.Proofs.World.Keeping

/-! The life of a core, whatever else happens. A core goes from phase to phase by the calls
that construct, enable and disable it, and by nothing else: neither what its own hooks do,
which cannot reach it while they run, nor what other code does to the host, to the other
plugins or to this one. Only its adapter and its listeners at the host are in danger, so
programs have to leave these alone. -/
namespace PluginBridge
open Plugin
variable {Memory : Type} {core other : CoreId}

/-! ## The law -/

/-- A core stands in a phase, in a state that a world can come to, and code leaves its adapter
alone. -/
structure World.Tends (core : CoreId) (world : World Memory) : Prop where
  minds : world.Minds (State.LeavesCore core)
  reached : world.state.Reachable
  stands : ∃ phase, world.state.Stands core phase

/-- What becomes of a world as far as a core is concerned: from the phase that it stands in
it goes on to later ones, unless it is held up there. -/
structure World.Lives (core : CoreId) (world later : World Memory) : Prop where
  minds : later.Minds (State.LeavesCore core)
  reaches : world.state.Reaches later.state
  leads : ∀ phase, world.state.Stands core phase →
    ∃ next, later.state.Stands core next ∧ phase.Leads next

namespace World.Lives
variable {world between later : World Memory}

theorem of_same (minds : later.Minds (State.LeavesCore core)) (same : later.state = world.state) :
    world.Lives core later :=
  ⟨minds, same ▸ .refl _, fun phase stands => ⟨phase, same ▸ stands, .refl phase⟩⟩

theorem tends (lives : world.Lives core later) (tends : world.Tends core) : later.Tends core := by
  obtain ⟨phase, stands⟩ := tends.stands
  obtain ⟨next, stood, -⟩ := lives.leads phase stands
  exact ⟨lives.minds, tends.reached.reaches lives.reaches, next, stood⟩

theorem trans (first : world.Lives core between) (second : between.Lives core later) :
    world.Lives core later := by
  refine ⟨second.minds, first.reaches.trans second.reaches, fun phase stands => ?_⟩
  obtain ⟨next, stood, leads⟩ := first.leads phase stands
  obtain ⟨last, stands, onward⟩ := second.leads next stood
  exact ⟨last, stands, leads.trans onward⟩

/-- A core stands in one phase, so it is enough to know where this one leads. -/
theorem of_stands {phase next : Phase} (minds : later.Minds (State.LeavesCore core))
    (reaches : world.state.Reaches later.state) (stands : world.state.Stands core phase)
    (ended : later.state.Stands core next) (leads : phase.Leads next) :
    world.Lives core later := by
  refine ⟨minds, reaches, fun other stood => ?_⟩
  obtain rfl := stands.unique stood
  exact ⟨next, ended, leads⟩

end World.Lives

/-- A change that is no part of the core's life. -/
theorem World.Tends.bypass {world : World Memory} (tends : world.Tends core) {change : Change}
    (bypasses : world.state.Bypasses core change) (leaves : world.state.LeavesCore core change) :
    world.Lives core (world.alter (·.change change)) :=
  ⟨tends.minds, world.state.changed change, fun phase stands =>
    ⟨phase, stands.bypass tends.reached bypasses leaves, .refl phase⟩⟩

namespace Change
variable {change : Change} {state : State}

theorem bypasses_of_plain (plain : change.isVital = false) : state.Bypasses core change := by
  cases change with
  | note happening =>
    cases happening with
    | called code role input =>
      cases role with
      | hook kind => cases plain
      | _ => exact fun moment => rfl
    | _ => exact fun moment => rfl
  | construct | setStage | setBusy => cases plain
  | _ => trivial

theorem plain_of_incidental (incidental : change.isIncidental = true) : change.isVital = false := by
  cases change with
  | note happening => simpa [isVital, isIncidental] using incidental
  | _ => first | rfl | cases incidental

theorem leaves_of_incidental (incidental : change.isIncidental = true) :
    state.LeavesCore core change := by
  refine fun _ known _ => ⟨?_, fun listener _ => ?_⟩
  · cases change <;> first | rfl | cases incidental
  · cases change <;> first | rfl | cases incidental

theorem leaves_of_vital (vital : change.isVital = true) : state.LeavesCore core change := by
  refine fun _ known _ => ⟨?_, fun listener _ => ?_⟩
  · cases change <;> first | rfl | cases vital
  · cases change <;> first | rfl | cases vital

end Change

namespace World.Law

/-- The law of a core's life. -/
def living (core : CoreId) : World.Law Memory :=
  World.ChangeLaw.toLaw {
    rule := State.LeavesCore core
    comes := fun world later => world.Tends core → world.Lives core later
    refl := fun _ tends => .of_same tends.minds rfl
    trans := fun first second tends => (first tends).trans (second ((first tends).tends tends))
    incidental := fun _ _ incidental tends =>
      tends.bypass (Change.bypasses_of_plain (Change.plain_of_incidental incidental))
        (Change.leaves_of_incidental incidental)
    asked := fun _ _ plain allowed tends => tends.bypass (Change.bypasses_of_plain plain) allowed
    remembered := fun _ _ tends => .of_same tends.minds rfl
    defined := fun _ _ minds tends =>
      .of_same (List.forall_mem_append.mpr ⟨tends.minds, List.forall_mem_singleton.mpr minds⟩) rfl
    reckless := fun reckless _ tends => absurd tends.minds reckless }

/-! ## Other cores -/

theorem living_grants {state : State} {change : Change} (vital : change.isVital = true)
    (bypasses : state.Bypasses core change) :
    (living core : World.Law Memory).Grants state change := by
  rintro world rfl
  exact fun tends => tends.bypass bypasses (Change.leaves_of_vital vital)

theorem living_indulges (apart : other ≠ core) :
    (living core : World.Law Memory).Indulges other where
  busy state busy := living_grants rfl apart
  staged state stage := living_grants rfl apart
  hooked state code moment := living_grants rfl fun kind => by simp [Happening.isCallOf, apart]

/-- What another core does to its adapter, which is a different one, concerns this one as little. -/
theorem living_serves {world : World Memory} {known : Core} (tends : world.Tends core)
    (apart : other ≠ core) (there : world.state.cores[other]? = some known) (later : World Memory)
    (comes : (living core).comes world later) (change : Change)
    (serves : change.adapter? = some known.adapter) :
    (living core : World.Law Memory).Grants later.state change := by
  intro left same
  refine fun tended => tended.bypass (Change.bypasses_of_plain ?_) fun _ one listed =>
    ⟨?_, fun listener _ => ?_⟩
  · cases change <;> first | rfl | cases serves
  · obtain ⟨now, still, kept⟩ := (comes tends).reaches.adapter there
    rw [← same] at still
    have distinct := tended.reached.coresApart.ne still listed apart.symm
    rw [kept] at distinct
    cases change with
    | attach id | detach id =>
      cases serves
      simpa [Change.attaches] using distinct.symm
    | _ => rfl
  · cases change <;> first | rfl | cases serves

end World.Law

/-! ## Turns of the core itself -/

namespace State
variable {state : State} {phase : Phase} {known now : Core}

/-- A core can be worked with in the stage of its phase, if it has one. -/
theorem Stands.reachable? (stands : state.Stands core phase) :
    (Action.reachable? state core).map (·.2) = phase.stage? := by
  have standing := stands.standing
  unfold Action.reachable?
  cases there : state.cores[core]? with
  | none =>
    rw [there] at standing
    cases phase <;> first | rfl | cases standing
  | some known =>
    rw [there] at standing
    obtain ⟨data, adapter, settings, code, stage, busy⟩ := known
    cases phase <;> cases standing <;> rfl

/-- When its hook has returned and all that it has registered is removed, a core is
disabled. -/
theorem Stands.dismantle (stands : state.Stands core .disabling) (owned : state.Owned)
    (there : state.cores[core]? = some now) (same : now.adapter = known.adapter) :
    ((state.change (.setBusy core false)).dismantle core known).Stands core .disabled := by
  obtain ⟨standing, shows⟩ := stands.shows there
  obtain ⟨staged, busy⟩ := Prod.mk.inj (Option.some.inj standing)
  rw [← staged, ← busy, same] at shows
  have freed := (shows.setBusy false).detach (owned.change _)
  have quiet (change : Change) (serves : (∃ owner, change = .unsubscribeOwner known.adapter owner) ∨
      ∃ name, change = .unregister known.adapter name) (state : State) :
      state.Bypasses core change ∧ state.LeavesAdapter known.adapter change := by
    obtain ⟨owner, rfl⟩ | ⟨name, rfl⟩ := serves <;> exact ⟨trivial, rfl, fun _ _ => rfl⟩
  have emptied (names : List String) := freed.reaches ((owned.change _).change _) quiet
    (.trans (.one _ (.unsubscribeOwner known.adapter known.data.id) (.inl ⟨_, rfl⟩))
      (unregisterEach_reaches (fun name => .inr ⟨name, rfl⟩) names _))
  exact ((emptied _).setStage .disabled).stands rfl (fun moment => by cases moment <;> rfl) rfl

theorem freed_reaches (state : State) (core : CoreId) (known : Core) :
    state.Reaches ((state.change (.setBusy core false)).dismantle core known) :=
  .trans (.one state (.setBusy core false) trivial)
    (dismantle_reaches _ core known trivial trivial (fun _ => trivial) trivial)

end State

/-- How a call comes out that asks for a core to be enabled or disabled. -/
inductive World.Turn (call : Caller Memory) (core : CoreId) (moment : Hook) (world : World Memory)
    (phase : Phase) :
    Except Stop (Option (Except LifecycleFailure Unit)) × World Memory → Prop where
  /-- The core is not there, has not been constructed, or is just running a hook. -/
  | beyond (beyond : phase.stage? = none) : Turn call core moment world phase (.ok none, world)
  | wrongStage {stage : Stage} (found : phase.stage? = some stage)
      (unready : phase ≠ moment.before) :
      Turn call core moment world phase (.ok (some (.error (.wrongStage moment stage))), world)
  /-- The host refuses the listeners. -/
  | refused {known : Core} {failure : AdapterFailure} (enables : moment = .enable)
      (ready : phase = moment.before) (there : world.state.cores[core]? = some known)
      (declined : (world.state.attach known.adapter).2 = .error failure) :
      Turn call core moment world phase (.ok (some (.error (.platform failure))),
        world.alter (·.log (Action.refusalRecord failure)))
  /-- The hook has been called once, and has ended somehow. -/
  | returned {known : Core} {start after : World Memory}
      {called : Called (.hook moment) × World Memory}
      {outcome : Except Payload (Except String Unit)}
      (ready : phase = moment.before) (there : world.state.cores[core]? = some known)
      (begun : start.state.Stands core moment.phase)
      (hooked : (call known.code (.hook moment) core ()).run start = called)
      (caught : called.1.caught = .ok (outcome, ()))
      (ended : after.state.Stands core moment.after) :
      Turn call core moment world phase
        (.ok (some (hookVerdict known.data.id moment outcome)), after)
  /-- The hook has been called and was cut short: nothing goes on from there. -/
  | cut {known : Core} {start : World Memory} {called : Called (.hook moment) × World Memory}
      {stop : Stop} (ready : phase = moment.before)
      (there : world.state.cores[core]? = some known)
      (begun : start.state.Stands core moment.phase)
      (hooked : (call known.code (.hook moment) core ()).run start = called)
      (caught : called.1.caught = .error stop) (held : called.2.state.Stands core moment.phase) :
      Turn call core moment world phase (.error stop, called.2)

namespace Action
variable {call : Caller Memory} (steady : call.Keeps (.living core))
include steady

/-- While one of its hooks runs, nothing moves a core. The hook returns, or is cut short. -/
theorem hook_ends {moment : Hook} {known : Core} {entry : World Memory}
    (tends : (entry.hooking core known moment).Tends core)
    (begun : (entry.hooking core known moment).state.Stands core moment.phase) :
    let called := (call known.code (.hook moment) core ()).run (entry.hooking core known moment)
    (entry.hooking core known moment).Lives core called.2 ∧
      called.2.state.Stands core moment.phase ∧
      ((∃ outcome, called.1.caught = .ok (outcome, ()) ∧ (runHook call core known moment).on entry =
          (.ok outcome, called.2.alter (·.change (.setBusy core false)))) ∨
        ∃ stop, called.1.caught = .error stop ∧
          (runHook call core known moment).on entry = (.error stop, called.2)) := by
  intro called
  have lives := steady.comes known.code (.hook moment) core () _ tends
  obtain ⟨next, stood, leads⟩ := lives.leads moment.phase begun
  obtain rfl := leads.waits (by cases moment <;> rfl)
  refine ⟨lives, stood, ?_⟩
  have ran : (runHook call core known moment).on entry = _ := on_runHook moment entry
  cases caught : called.1.caught with
  | error stop =>
    simp only [called] at caught
    simp only [caught] at ran
    exact .inr ⟨stop, rfl, ran⟩
  | ok result =>
    simp only [called] at caught
    simp only [caught] at ran
    exact .inl ⟨result.1, rfl, ran⟩

/-- What a call of enable comes to. The hook is called in a world in which the core stands in the
phase of the hook. -/
theorem enable_turn {world : World Memory} {phase : Phase} (tends : world.Tends core)
    (stands : world.state.Stands core phase) :
    World.Turn call core .enable world phase ((enable call core).on world) ∧
      world.Lives core ((enable call core).on world).2 := by
  have staged := stands.reachable?
  cases found : reachable? world.state core with
  | none =>
    rw [on_enable_beyond found]
    rw [found] at staged
    exact ⟨.beyond staged.symm, .of_same tends.minds rfl⟩
  | some reached =>
    obtain ⟨known, stage⟩ := reached
    rw [found] at staged
    obtain rfl | other := eq_or_ne stage .loaded
    · obtain rfl : phase = .loaded := by cases phase <;> first | rfl | cases staged
      have there := core_of_reachable found
      rw [on_enable_loaded found]
      cases accepted : (world.state.attach known.adapter).2 with
      | error failure =>
        rw [on_enableCore_refused accepted]
        exact ⟨.refused rfl rfl there accepted,
          (World.Law.living core).incidental (.log (refusalRecord failure)) world rfl rfl tends⟩
      | ok done =>
        have begun : ((world.enabling core known).hooking core known .enable).state.Stands core
            .enabling := stands.enable there accepted known.code
        have reaches : world.state.Reaches
            ((world.enabling core known).hooking core known .enable).state :=
          ⟨[.attach known.adapter, .setStage core .enabled, .setBusy core true,
            .note (.called known.code (.hook .enable) core)], fun _ _ => trivial, rfl⟩
        have ready : ((world.enabling core known).hooking core known .enable).Tends core :=
          ⟨tends.minds, tends.reached.reaches reaches, _, begun⟩
        obtain ⟨lives, held, ⟨outcome, caught, ran⟩ | ⟨stop, caught, ran⟩⟩ :=
          hook_ends steady ready begun
        · obtain ⟨records, done⟩ := on_enableCore_ok accepted ran
          rw [done]
          have ended := held.settle.logAll records
          exact ⟨.returned rfl there begun rfl caught ended, .of_stands lives.minds
            (.trans (reaches.trans lives.reaches) (.trans (.one _ (.setBusy core false) trivial)
              (State.logAll_reaches (fun _ => trivial) records _))) stands ended ⟨by decide, nofun⟩⟩
        · rw [on_enableCore_error accepted ran]
          exact ⟨.cut rfl there begun rfl caught held,
            .of_stands lives.minds (reaches.trans lives.reaches) stands held ⟨by decide, nofun⟩⟩
    · rw [on_enable_refused other found]
      refine ⟨.wrongStage staged.symm ?_, .of_same tends.minds rfl⟩
      rintro rfl
      cases staged
      exact other rfl

/-- What a call of disable comes to. -/
theorem disable_turn {world : World Memory} {phase : Phase} (tends : world.Tends core)
    (stands : world.state.Stands core phase) :
    World.Turn call core .disable world phase ((disable call core).on world) ∧
      world.Lives core ((disable call core).on world).2 := by
  have staged := stands.reachable?
  cases found : reachable? world.state core with
  | none =>
    rw [on_disable_beyond found]
    rw [found] at staged
    exact ⟨.beyond staged.symm, .of_same tends.minds rfl⟩
  | some reached =>
    obtain ⟨known, stage⟩ := reached
    rw [found] at staged
    obtain rfl | other := eq_or_ne stage .enabled
    · obtain rfl : phase = .enabled := by cases phase <;> first | rfl | cases staged
      have there := core_of_reachable found
      have begun : (world.hooking core known .disable).state.Stands core .disabling :=
        stands.disable known.code
      have reaches : world.state.Reaches (world.hooking core known .disable).state :=
        ⟨[.setBusy core true, .note (.called known.code (.hook .disable) core)], fun _ _ => trivial,
          rfl⟩
      have ready : (world.hooking core known .disable).Tends core :=
        ⟨tends.minds, tends.reached.reaches reaches, _, begun⟩
      rw [on_disable_enabled found]
      obtain ⟨lives, held, ⟨outcome, caught, ran⟩ | ⟨stop, caught, ran⟩⟩ :=
        hook_ends steady ready begun
      · obtain ⟨records, done⟩ := on_disableCore_ok ran
        rw [done]
        have left := reaches.trans lives.reaches
        obtain ⟨now, still, kept⟩ := State.Reaches.adapter left there
        have ended := (held.dismantle (lives.tends ready).reached.owned still kept).logAll records
        exact ⟨.returned rfl there begun rfl caught ended, .of_stands lives.minds
          (left.trans ((State.freed_reaches _ core known).trans
            (State.logAll_reaches (fun _ => trivial) records _)))
          stands ended ⟨by decide, nofun⟩⟩
      · rw [on_disableCore_error ran]
        exact ⟨.cut rfl there begun rfl caught held,
          .of_stands lives.minds (reaches.trans lives.reaches) stands held ⟨by decide, nofun⟩⟩
    · rw [on_disable_refused other found]
      refine ⟨.wrongStage staged.symm ?_, .of_same tends.minds rfl⟩
      rintro rfl
      cases staged
      exact other rfl

/-- The core that is next is constructed, and its constructor is called once. -/
theorem construct_lives {world : World Memory} (tends : world.Tends core)
    (next : world.state.cores.length = core) (order : LoadOrder) (settings : Settings.Loaded) :
    world.Lives core ((construct call order settings).on world).2 := by
  obtain ⟨phase, stands⟩ := tends.stands
  obtain rfl : phase = .absent := stands.absent_of_none (List.getElem?_eq_none (Nat.le_of_eq next))
  subst next
  have begun := stands.begin tends.reached.owned rfl platformName order.data settings order.code
  have reaches : world.state.Reaches _ := .trans
    (.one world.state (.construct platformName order.data settings order.code) trivial)
    (.one _ (.note (.called order.code (.hook .create) world.state.cores.length)) trivial)
  have lives := steady.comes order.code (.hook .create) world.state.cores.length ()
    ((world.constructing order settings).alter
      (·.note (.called order.code (.hook .create) world.state.cores.length)))
    ⟨tends.minds, tends.reached.reaches reaches, _, begun⟩
  obtain ⟨later, held, leads⟩ := lives.leads .constructing begun
  obtain rfl := leads.waits rfl
  have ran := on_attempt_caught call order.code (.hook .create) world.state.cores.length ()
    (world.constructing order settings)
  generalize (call order.code (.hook .create) world.state.cores.length ()).run _ = called
    at lives held ran
  have left := reaches.trans lives.reaches
  cases caught : called.1.caught with
  | error stop =>
    simp only [caught] at ran
    rw [on_construct_error call order settings ran]
    exact .of_stands lives.minds left stands held ⟨by decide, nofun⟩
  | ok result =>
    simp only [caught] at ran
    obtain ⟨record, done⟩ := on_construct call order settings ran
    rw [done]
    have logged := left.trans (.one _ (.log record) trivial)
    have stood := held.logAll [record]
    rcases result with ⟨payload | message | _, -⟩
    · exact .of_stands lives.minds logged stands stood ⟨by decide, nofun⟩
    · exact .of_stands lives.minds logged stands stood ⟨by decide, nofun⟩
    · exact .of_stands lives.minds (logged.trans (.one _ (.setStage _ .loaded) trivial)) stands
        stood.load ⟨by decide, nofun⟩

end Action

namespace World.Law

/-- Whatever code may do, a core's life goes on as it should. -/
theorem living_living : (living core : World.Law Memory).Living := by
  refine .of_cores (fun state entry => living_grants rfl trivial)
    (fun state entry id => living_grants rfl trivial)
    (fun steady order settings => ⟨fun world tends => ?_⟩)
    (fun steady id => ⟨fun world tends => ?_⟩) (fun steady id => ⟨fun world tends => ?_⟩)
  · by_cases next : world.state.cores.length = core
    · exact Action.construct_lives steady tends next order settings
    · exact Action.construct_comes steady (living_grants rfl next) (living_indulges next) tends
  · obtain ⟨phase, stands⟩ := tends.stands
    obtain rfl | apart := eq_or_ne id core
    · exact (Action.enable_turn steady tends stands).2
    · exact Action.enable_comes steady (living_indulges apart)
        (fun known there => living_serves tends apart there) tends
  · obtain ⟨phase, stands⟩ := tends.stands
    obtain rfl | apart := eq_or_ne id core
    · exact (Action.disable_turn steady tends stands).2
    · exact Action.disable_comes steady (living_indulges apart)
        (fun known there => living_serves tends apart there) tends

end World.Law
end PluginBridge
