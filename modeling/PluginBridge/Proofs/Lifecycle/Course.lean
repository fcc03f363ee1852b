import PluginBridge.Proofs.Lifecycle.Disable
import PluginBridge.Proofs.Lifecycle.Entries
import PluginBridge.Proofs.Lifecycle.Stages

/-! The life of a plugin from its beginning. In whatever order its core is enabled and
disabled, however its hooks end and whenever the host is shut down, the core only goes on
from stage to stage; its stage tells which of its hooks have been called, each of them once,
and whether it hears the host. An entry point adds that the plugin is constructed at most
once, and that it does not matter how often it is asked for. -/
namespace PluginBridge
open Plugin
variable {Memory : Type} {core : CoreId} {entry : EntryId}

/-! ## What a stage tells -/

/-- The stage of a core tells which of its hooks have been called, and whether its adapter
hears the host. -/
structure State.Accords (state : State) (core : CoreId) (known : Core) : Prop where
  created : state.hookCalls core .create = 1
  enabled : state.hookCalls core .enable =
    if known.stage = some .enabled ∨ known.stage = some .disabled then 1 else 0
  /-- Unless the hook is just running. -/
  disabled : known.busy = false → state.hookCalls core .disable =
    if known.stage = some .disabled then 1 else 0
  atMostOnce : ∀ moment, state.hookCalls core moment ≤ 1
  attached : (state.adapter known.adapter).isAttached = decide (known.stage = some .enabled)
  heard : (state.heardBy known.adapter).map (·.kind) =
    if known.stage = some .enabled then Adapter.kinds state.host.kind else []

/-- What a phase says can be told from its stage, except which hook runs. -/
theorem Plugin.Phase.tells {phase : Phase} {stage : Option Stage} {busy : Bool}
    (standing : phase.standing? = some (stage, busy)) :
    phase.calls .create = 1 ∧
      phase.calls .enable = (if stage = some .enabled ∨ stage = some .disabled then 1 else 0) ∧
      (busy = false → phase.calls .disable = if stage = some .disabled then 1 else 0) ∧
      phase.isAttached = decide (stage = some .enabled) := by
  cases phase <;> cases standing <;> decide

theorem State.Stands.accords {state : State} {phase : Phase} {known : Core}
    (stands : state.Stands core phase) (there : state.cores[core]? = some known) :
    state.Accords core known := by
  obtain ⟨standing, shows⟩ := stands.shows there
  obtain ⟨created, enabled, disabled, attached⟩ := Phase.tells standing
  refine ⟨(shows.calls .create).trans created, (shows.calls .enable).trans enabled,
    fun free => (shows.calls .disable).trans (disabled free), fun moment => ?_,
    shows.holds.trans attached, ?_⟩
  · rw [shows.calls, Phase.calls]
    split <;> decide
  · simpa [attached] using shows.hears

/-- What can be said of a core, and of what becomes of it. -/
structure World.Course (core : CoreId) (world : World Memory) : Prop where
  stands : ∃ phase, world.state.Stands core phase
  accords : ∀ known, world.state.cores[core]? = some known → world.state.Accords core known
  /-- Whatever is run next, the core goes on to later phases only. -/
  onward : ∀ depth (program : Program Memory .main),
    program.Minds (State.LeavesCore core) none → world.Lives core (world.run depth program).2
  /-- How a request comes out to enable or to disable the core, and where it leads. -/
  turns : ∀ depth phase, world.state.Stands core phase →
    (World.Turn (callWithin depth) core .enable world phase
        ((Action.enable (callWithin depth) core).on world) ∧
      world.Lives core ((Action.enable (callWithin depth) core).on world).2) ∧
    (World.Turn (callWithin depth) core .disable world phase
        ((Action.disable (callWithin depth) core).on world) ∧
      world.Lives core ((Action.disable (callWithin depth) core).on world).2)
  /-- Such a request comes to an answer, unless a hook is cut short. -/
  calm : ∀ depth stop, ((Action.enable (callWithin depth) core).on world).1 = .error stop ∨
      ((Action.disable (callWithin depth) core).on world).1 = .error stop →
    (callWithin depth : Caller Memory).Cuts stop ∧ ∀ payload, stop ≠ .panic payload

theorem World.Tends.course {world : World Memory} (tends : world.Tends core) :
    world.Course core := by
  have living := @World.Law.living_living Memory core
  obtain ⟨phase, stands⟩ := tends.stands
  refine ⟨⟨phase, stands⟩, fun known => stands.accords, fun depth program minds => ?_,
    fun depth phase stands => ⟨?_, ?_⟩, fun depth stop stopped => ?_⟩
  · exact World.run_comes living world depth ((program.heeds_iff_minds none).mpr minds) tends
  · exact Action.enable_turn (callWithin_keeps living depth) tends stands
  · exact Action.disable_turn (callWithin_keeps living depth) tends stands
  · have cuts := stopped.elim ((Action.calm_enable _ core).cuts world stop)
      ((Action.calm_disable _ core).cuts world stop)
    exact ⟨cuts, cuts.calm⟩

/-! ## Entry points -/

/-- What can be said of an entry point, and of what becomes of it. -/
structure World.OpensOnce (entry : EntryId) (world : World Memory) : Prop where
  untied : world.state.Untied entry
  /-- The first request to enable it. -/
  opens : ∀ depth known, world.state.entries[entry]? = some known → known.used = false →
    world.Opening (callWithin depth) entry known
      ((Action.enableEntry (callWithin depth) entry).on world)
  spends : ∀ depth,
    ((Action.enableEntry (callWithin depth) entry).on world).2.state.Spent entry
  /-- All other requests to enable it do nothing. -/
  again : world.state.Spent entry → ∀ depth,
    (Action.enableEntry (callWithin depth) entry).on world = (.ok (), world)
  /-- Once it has been used, it stays with its core, or without one. -/
  retains : ∀ known, world.state.entries[entry]? = some known → known.used = true →
    ∀ depth (program : Program Memory .main),
      (world.run depth program).2.state.entries[entry]? = some known
  coreless : (∀ known, world.state.entries[entry]? = some known → known.core = none) →
    ∀ depth, (Action.disableEntry (callWithin depth) entry).on world = (.ok (), world)
  tied : ∀ known core, world.state.entries[entry]? = some known → known.core = some core →
    ∀ depth, (Action.disableEntry (callWithin depth) entry).on world =
      (Action.disable (callWithin depth) core >>= Action.report "disabling").on world
  /-- Of many requests only few matter. -/
  fresh : (∀ known, world.state.entries[entry]? = some known → known.used = false) →
    ∀ depth requests, (Action.serve (callWithin depth) entry requests).on world =
      (Action.serve (callWithin depth) entry (EntryRequest.essential requests)).on world
  spent : world.state.Spent entry →
    ∀ depth requests, (Action.serve (callWithin depth) entry requests).on world =
      (Action.serve (callWithin depth) entry (requests.filter (· = .disable))).on world
  calm : ∀ depth requests stop,
    ((Action.serve (callWithin depth) entry requests).on world).1 = .error stop →
    (callWithin depth : Caller Memory).Cuts stop ∧ ∀ payload, stop ≠ .panic payload

/-- An entry point that has been used is not touched by what is run. -/
theorem World.run_retains (world : World Memory) (entry : EntryId) (depth : Nat)
    (program : Program Memory .main) (untied : world.state.Untied entry) :
    world.state.Retains entry (world.run depth program).2.state :=
  (World.run_comes (@Law.retaining_living Memory entry) world depth
    (program.heeds_of_lax Request.rule_lax none)).2 untied

theorem World.opensOnce {world : World Memory} (untied : world.state.Untied entry) :
    world.OpensOnce entry := by
  have steady (depth : Nat) : (callWithin depth : Caller Memory).Keeps (.retaining entry) :=
    callWithin_keeps World.Law.retaining_living depth
  refine ⟨untied, fun depth known there unused => ?_, fun depth => ?_, fun spent depth => ?_,
    fun known there used depth program => ?_, fun coreless depth => ?_,
    fun known core there tied depth => ?_, fun fresh depth requests => ?_,
    fun spent depth requests => ?_, fun depth requests stop stopped => ?_⟩
  · exact Action.enableEntry_opens (steady depth) there unused
  · exact Action.enableEntry_spends (callWithin_reaches depth) world
  · exact Action.on_enableEntry_spent spent
  · exact (world.run_retains entry depth program untied).used known there used
  · exact Action.on_disableEntry_untied coreless
  · exact Action.on_disableEntry_tied there tied
  · exact Action.on_serve_fresh (steady depth) requests untied fresh
  · exact Action.on_serve_spent (steady depth) requests spent
  · have cuts := (Action.calm_serve _ entry requests).cuts world stop stopped
    exact ⟨cuts, cuts.calm⟩

/-! ## From the beginning -/

theorem World.tends_initial (kind : Host.Kind) (surroundings : Surroundings) (memory : Memory) :
    (World.initial kind surroundings memory).Tends core where
  minds := nofun
  reached := ⟨kind, surroundings, .refl _⟩
  stands := ⟨.absent, .absent rfl fun _ => rfl⟩

/-- Where programs leave the listeners of a core alone that it has at the host, they may do
whatever else they like, run the core's hooks to any end and shut the host down. At the end of
each such run the core stands in a phase of its life: its stage tells that its constructor has
been called once, its enable hook once if it is enabled or disabled and not before, its disable
hook once if it is disabled, and that it hears the host exactly while it is enabled. From there
it only goes on. A request to enable or to disable it is refused in the wrong stage, or because
the host refuses the listeners, and then nothing happens but that the latter is logged; else it
calls the hook once, and a hook that fails or panics is told about in the answer.

Of the requests that the host makes to an entry point only the first one to enable it calls
the constructor, at most once; later ones do nothing, and neither do those to disable it that
find no core. -/
theorem life_takes_its_course (kind : Host.Kind) (surroundings : Surroundings) (memory : Memory)
    (core : CoreId) (entry : EntryId) (depth : Nat) {program : Program Memory .main}
    (minds : program.Minds (State.LeavesCore core) none) :
    let world := ((World.initial kind surroundings memory).run depth program).2
    world.Course core ∧ world.OpensOnce entry := by
  intro world
  have lives : (World.initial kind surroundings memory).Lives core world :=
    World.run_comes World.Law.living_living _ depth ((program.heeds_iff_minds none).mpr minds)
      (World.tends_initial ..)
  have retains := (World.initial kind surroundings memory).run_retains entry depth program nofun
  exact ⟨(lives.tends (World.tends_initial ..)).course, World.opensOnce retains.untied⟩

/-- A plugin whose hooks fail, each in its way. -/
def frailCode : Code Unit :=
  .plugin fun
    | .create, _ => .finish (.ok ())
    | .enable, _ => .panic (.text "lost")
    | .disable, _ => .finish (.error "stuck")

/-- Its entry point is asked for more than once, and the host is shut down meanwhile. -/
def frailLife : Program Unit .main :=
  .define frailCode fun code => .ask (.newEntry (plainData "greeter") code none) fun entry =>
    .ask (.disableEntry entry) fun _ => .ask (.enableEntry entry) fun _ =>
      .ask (.enableEntry entry) fun _ => .ask .shutdown fun _ =>
        .ask (.disableEntry entry) fun _ => .ask (.enable 0) fun _ => .finish ()

theorem frailCode_minds (rule : State → Change → Prop) (role : Role) (input : role.Input) :
    (frailCode role input).Minds rule none := by
  cases role with
  | hook moment => cases moment <;> trivial
  | _ => trivial

theorem frailLife_minds : frailLife.Minds (State.LeavesCore core) none := by
  have leaves (state : State) (change : Change) (apart : ∀ id, change.attaches id = false)
      (spares : ∀ listener, change.takes listener = false) :
      state.Allows (State.LeavesCore core) [change] :=
    ⟨fun _ known _ => ⟨apart known.adapter, fun listener _ => spares listener⟩, trivial⟩
  refine ⟨frailCode_minds _, fun code => ⟨fun state _ => ?_, fun entry => ?_⟩⟩
  · exact leaves state (.newEntry (plainData "greeter") code none) (fun _ => rfl) fun _ => rfl
  refine ⟨fun _ _ => trivial, fun _ => ⟨fun _ _ => trivial, fun _ => ⟨fun _ _ => trivial,
    fun _ => ?_⟩⟩⟩
  refine ⟨fun state _ => leaves state .close (fun _ => rfl) fun _ => rfl, fun _ => ?_⟩
  exact ⟨fun _ _ => trivial, fun _ => ⟨fun _ _ => trivial, fun _ => trivial⟩⟩

def frailWorld : World Unit :=
  ((World.initial .server ⟨.empty, [], "/", "/"⟩ ()).run 2 frailLife).2

theorem frail_life_takes_its_course :
    frailLife.Minds (State.LeavesCore 0) none ∧
      ∃ known, frailWorld.state.cores[0]? = some known ∧ known.stage = some .disabled ∧
        frailWorld.state.Accords 0 known ∧ frailWorld.OpensOnce 0 := by
  obtain ⟨course, opens⟩ :=
    life_takes_its_course .server ⟨.empty, [], "/", "/"⟩ () 0 0 2 frailLife_minds
  have staged : (frailWorld.state.cores[0]?).map (·.stage) = some (some .disabled) := by
    decide +kernel
  obtain ⟨known, there, stage⟩ := Option.map_eq_some_iff.mp staged
  exact ⟨frailLife_minds, known, there, stage, course.accords known there, opens⟩

end PluginBridge
