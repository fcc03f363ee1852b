import PluginBridge.Proofs.State.Players
import PluginBridge.Proofs.World.Runs

/-! Laws on what worlds come to. A law may ask programs to heed a rule, which tells for
each request in which states it is allowed. It says what single changes lead to, except
those of which the life of a plugin is made: what these do is told apart, where it matters
to the law. Changes by which players come, go on and leave count as one with the event that
the host begins to fire for them, since nothing else happens in between. -/
namespace PluginBridge
variable {Memory α β : Type}

/-! ## Kinds of changes -/

def Role.isHook : Role → Bool
  | .hook _ => true
  | _ => false

def Happening.callsHook : Happening → Bool
  | .called _ role _ => role.isHook
  | _ => false

/-- Changes that come with what actions do, whatever they are asked for. -/
def Change.isIncidental : Change → Bool
  | .log _ | .join _ | .drop .. | .remove _ | .move .. | .tell .. => true
  | .note happening => !happening.callsHook
  | _ => false

/-- Changes by which players come, go on to a server or leave, and announcements of that. -/
def Change.travels : Change → Bool
  | .join _ | .remove _ | .move .. => true
  | .note (.fired event) => event.isTravel
  | _ => false

/-- Changes that only the life of a plugin brings about. -/
def Change.isVital : Change → Bool
  | .construct .. | .setStage .. | .setBusy .. | .useEntry _ | .tie .. => true
  | .note happening => happening.callsHook
  | _ => false

/-- The adapter that a change works on. -/
def Change.adapter? : Change → Option AdapterId
  | .attach id | .detach id | .subscribe id .. | .unsubscribe id _ | .unsubscribeOwner id _
  | .register id _ | .unregister id _ => some id
  | _ => none

/-- The changes that a request comes to, if it is for these changes and nothing else. -/
def Request.changes (state : State) : Request → List Change
  | .setPermission player node held => [.permit player node held]
  | .addServer name address => [.addServer name address]
  | .sendData server channel data => [.sendData server channel data]
  | .shutdown => [.close]
  | .listen owner kind code => [.listen owner kind code]
  | .unlisten listener => [.unlisten listener]
  | .unlistenOwner owner => [.unlistenOwner owner]
  | .offer owner name aliases code => [.offer owner name aliases code]
  | .withdraw name => [.withdraw name]
  | .newAdapter platform consoleName logEvents => [.newAdapter platform consoleName logEvents]
  | .attach adapter => [.attach adapter]
  | .detach adapter => [.detach adapter]
  | .subscribe adapter kind owner priority code => [.subscribe adapter kind owner priority code]
  | .unsubscribe adapter subscription => [.unsubscribe adapter subscription]
  | .unsubscribeOwner adapter owner => [.unsubscribeOwner adapter owner]
  | .register adapter command => [.register adapter command]
  | .unregister adapter name => [.unregister adapter name]
  | .unregisterAll adapter => (state.adapter adapter).commands.map (.unregister adapter)
  | .newEntry data code dataFolder => [.newEntry data code dataFolder]
  | _ => []

theorem Request.changes_plain {state : State} {request : Request} {change : Change}
    (among : change ∈ request.changes state) :
    change.isVital = false ∧ change.travels = false := by
  cases request with
  | unregisterAll adapter =>
    obtain ⟨name, -, rfl⟩ := List.mem_map.mp among
    exact ⟨rfl, rfl⟩
  | _ =>
    first
      | exact absurd among List.not_mem_nil
      | (obtain rfl := List.mem_singleton.mp among; exact ⟨rfl, rfl⟩)

/-! ## Programs that mind a rule -/

/-- What the answer to a request shows of the state as it is then. -/
def Request.shown : (request : Request) → request.Reply → Option State
  | .look, state => some state
  | _, _ => none

/-- A program that asks for a change only where the rule allows it. If it has just looked
at the state, it knows where it is. -/
def Program.Minds (rule : State → Change → Prop) {role : Role} :
    Program Memory role → Option State → Prop
  | .finish _, _ | .panic _, _ => True
  | .recollect next, seen => ∀ memory, (next memory).Minds rule seen
  | .remember _ next, seen => next.Minds rule seen
  | .observe next, seen => ∀ subject, (next subject).Minds rule seen
  | .edit _ next, seen => ∀ outcome, (next outcome).Minds rule seen
  | .define code next, seen =>
    (∀ task input, (code task input).Minds rule none) ∧ ∀ id, (next id).Minds rule seen
  | .ask request next, seen =>
    (∀ state, (∀ known ∈ seen, known = state) →
      state.Allows rule (request.changes state)) ∧
    ∀ reply, (next reply).Minds rule (request.shown reply)

/-- A program that makes a request only where the rule allows it. -/
def Program.Heeds (rule : State → Request → Prop) {role : Role} :
    Program Memory role → Option State → Prop
  | .finish _, _ | .panic _, _ => True
  | .recollect next, seen => ∀ memory, (next memory).Heeds rule seen
  | .remember _ next, seen => next.Heeds rule seen
  | .observe next, seen => ∀ subject, (next subject).Heeds rule seen
  | .edit _ next, seen => ∀ outcome, (next outcome).Heeds rule seen
  | .define code next, seen =>
    (∀ task input, (code task input).Heeds rule none) ∧ ∀ id, (next id).Heeds rule seen
  | .ask request next, seen =>
    (∀ state, (∀ known ∈ seen, known = state) → rule state request) ∧
    ∀ reply, (next reply).Heeds rule (request.shown reply)

/-- All code that has been defined minds the rule. -/
def World.Minds (rule : State → Change → Prop) (world : World Memory) : Prop :=
  ∀ code ∈ world.shelf, ∀ role input, (code role input).Minds rule none

def World.Heeds (rule : State → Request → Prop) (world : World Memory) : Prop :=
  ∀ code ∈ world.shelf, ∀ role input, (code role input).Heeds rule none

/-- A rule on changes is one on the requests that come to them. -/
def Request.rule (rule : State → Change → Prop) (state : State) (request : Request) : Prop :=
  state.Allows rule (request.changes state)

theorem Program.heeds_iff_minds {rule : State → Change → Prop} {role : Role}
    (program : Program Memory role) (seen : Option State) :
    program.Heeds (Request.rule rule) seen ↔ program.Minds rule seen := by
  induction program generalizing seen with
  | finish result => exact Iff.rfl
  | panic payload => exact Iff.rfl
  | recollect next ih => exact forall_congr' fun memory => ih memory seen
  | remember change next ih => exact ih seen
  | observe next ih => exact forall_congr' fun subject => ih subject seen
  | edit change next ih => exact forall_congr' fun outcome => ih outcome seen
  | define code next coded ih =>
    exact and_congr (forall_congr' fun task => forall_congr' fun input => coded task input none)
      (forall_congr' fun id => ih id seen)
  | ask request next ih => exact and_congr Iff.rfl (forall_congr' fun reply => ih reply _)

theorem World.heeds_iff_minds {rule : State → Change → Prop} (world : World Memory) :
    world.Heeds (Request.rule rule) ↔ world.Minds rule :=
  forall_congr' fun _ => forall_congr' fun _ => forall_congr' fun _ => forall_congr' fun _ =>
    Program.heeds_iff_minds _ none

/-- Every program heeds a rule that allows everything. -/
theorem Program.heeds_of_lax {rule : State → Request → Prop}
    (lax : ∀ state request, rule state request) {role : Role} (program : Program Memory role)
    (seen : Option State) : program.Heeds rule seen := by
  induction program generalizing seen with
  | finish result => trivial
  | panic payload => trivial
  | recollect next ih => exact fun memory => ih memory seen
  | remember change next ih => exact ih seen
  | observe next ih => exact fun subject => ih subject seen
  | edit change next ih => exact fun outcome => ih outcome seen
  | define code next coded ih =>
    exact ⟨fun task input => coded task input none, fun id => ih id seen⟩
  | ask request next ih => exact ⟨fun state _ => lax state request, fun reply => ih reply _⟩

theorem Request.rule_lax (state : State) (request : Request) :
    Request.rule (fun _ _ => True) state request :=
  .of_forall (fun _ _ _ => trivial) state

theorem Program.minds_of_lax {role : Role} (program : Program Memory role) (seen : Option State) :
    program.Minds (fun _ _ => True) seen :=
  (program.heeds_iff_minds seen).mp (program.heeds_of_lax Request.rule_lax seen)

/-! ## Laws -/

/-- A law on what worlds come to. -/
structure World.Law (Memory : Type) where
  /-- Where a request is allowed. -/
  rule : State → Request → Prop
  comes : World Memory → World Memory → Prop
  refl (world : World Memory) : comes world world
  trans {world between later : World Memory} :
    comes world between → comes between later → comes world later
  incidental (change : Change) (world : World Memory) (incidental : change.isIncidental = true)
    (still : change.travels = false) : comes world (world.alter (·.change change))
  arrived (name : String) (world : World Memory) : comes world (world.alter (·.arrived name))
  moved (player : Host.PlayerId) (server : Host.ServerId) (world : World Memory) :
    comes world (world.alter (·.moved player server))
  left (player : Host.PlayerId) (world : World Memory)
    (listed : player ∈ world.state.host.listed)
    (lost : world.state.host.isConnected player = false) :
    comes world (world.alter (·.left player))
  /-- Code may make an event up and have the host fire it. -/
  fired (event : HostEvent) (world : World Memory)
    (allowed : rule world.state (.fire event)) :
    comes world (world.alter (·.note (.fired event)))
  asked (request : Request) (world : World Memory) (allowed : rule world.state request) :
    comes world { world with
      state := (request.changes world.state).foldl State.change world.state }
  remembered (world : World Memory) (memory : Memory) : comes world { world with memory }
  defined (world : World Memory) (code : Code Memory)
    (heeds : ∀ role input, (code role input).Heeds rule none) :
    comes world { world with shelf := world.shelf ++ [code] }
  /-- The law says nothing once code has been defined that does not heed the rule. -/
  reckless {world : World Memory} (reckless : ¬world.Heeds rule) (later : World Memory) :
    comes world later

namespace World.Law
variable (law : World.Law Memory)

/-- A change keeps the law in worlds of this state. -/
def Grants (state : State) (change : Change) : Prop :=
  ∀ world : World Memory, world.state = state → law.comes world (world.alter (·.change change))

variable {law}

/-- Changes of which each is granted where it is made. -/
theorem follow {changes : List Change} {world : World Memory}
    (grants : world.state.Allows law.Grants changes) :
    law.comes world { world with state := changes.foldl State.change world.state } := by
  induction changes generalizing world with
  | nil => exact law.refl world
  | cons change rest ih =>
    have first := grants.1 world rfl
    exact law.trans first (@ih (world.alter (·.change change)) grants.2)

/-- Changes that are granted wherever the law comes to. -/
theorem onward {start world : World Memory} {changes : List Change}
    (serves : ∀ later, law.comes start later → ∀ change ∈ changes, law.Grants later.state change)
    (comes : law.comes start world) :
    law.comes start { world with state := changes.foldl State.change world.state } := by
  induction changes generalizing world with
  | nil => exact comes
  | cons change rest ih =>
    have first := serves world comes change (List.mem_cons_self ..) world rfl
    exact ih (fun later reached other member =>
      serves later reached other (List.mem_cons_of_mem _ member)) (law.trans comes first)

theorem pursue {world : World Memory} {later : State}
    (reaches : world.state.ReachesBy
      (fun change => change.isIncidental = true ∧ change.travels = false) later) :
    law.comes world { world with state := later } := by
  obtain ⟨changes, plain, rfl⟩ := reaches
  exact law.onward (fun later _ change member other _ =>
    law.incidental change other (plain change member).1 (plain change member).2) (law.refl world)

end World.Law

/-- A law that tells by single changes what a world comes to, whatever they come with. Its
rule is on changes as well. -/
structure World.ChangeLaw (Memory : Type) where
  /-- Where a change is allowed that programs ask for. -/
  rule : State → Change → Prop
  comes : World Memory → World Memory → Prop
  refl (world : World Memory) : comes world world
  trans {world between later : World Memory} :
    comes world between → comes between later → comes world later
  incidental (change : Change) (world : World Memory) (incidental : change.isIncidental = true) :
    comes world (world.alter (·.change change))
  asked (change : Change) (world : World Memory) (plain : change.isVital = false)
    (allowed : rule world.state change) : comes world (world.alter (·.change change))
  remembered (world : World Memory) (memory : Memory) : comes world { world with memory }
  defined (world : World Memory) (code : Code Memory)
    (minds : ∀ role input, (code role input).Minds rule none) :
    comes world { world with shelf := world.shelf ++ [code] }
  reckless {world : World Memory} (reckless : ¬world.Minds rule) (later : World Memory) :
    comes world later

namespace World.ChangeLaw
variable (law : World.ChangeLaw Memory)

theorem all_asked {changes : List Change} (plain : ∀ change ∈ changes, change.isVital = false)
    {world : World Memory} (allows : world.state.Allows law.rule changes) :
    law.comes world { world with state := changes.foldl State.change world.state } := by
  induction changes generalizing world with
  | nil => exact law.refl world
  | cons change rest ih =>
    obtain ⟨first, others⟩ := List.forall_mem_cons.mp plain
    have begun := law.asked change world first allows.1
    exact law.trans begun (@ih others (world.alter (·.change change)) allows.2)

/-- Such a law is one on the changes by which players come and go, and on requests. -/
def toLaw : World.Law Memory where
  rule := Request.rule law.rule
  comes := law.comes
  refl := law.refl
  trans := law.trans
  incidental change world incidental _ := law.incidental change world incidental
  arrived name world :=
    law.trans (law.incidental (.join name) world rfl)
      (law.trans (law.incidental (.log (State.arrivalRecord name)) _ rfl)
        (law.incidental (.note (.fired (.join world.state.host.everyone.length))) _ rfl))
  moved player server world :=
    law.trans (law.incidental (.move player server) world rfl) (law.incidental
      (.note (.fired (.switch player (world.state.host.serverOf player) server))) _ rfl)
  left player world _ _ :=
    law.trans (law.incidental (.remove player) world rfl)
      (law.incidental (.note (.fired (.quit player))) _ rfl)
  fired event world _ := law.incidental (.note (.fired event)) world rfl
  asked _ _ allowed := law.all_asked (fun _ among => (Request.changes_plain among).1) allowed
  remembered := law.remembered
  defined world code heeds := law.defined world code fun role input =>
    (Program.heeds_iff_minds _ none).mp (heeds role input)
  reckless reckless := law.reckless fun minds => reckless ((World.heeds_iff_minds _).mpr minds)

end World.ChangeLaw

/-- The law has nothing against the stages and the hooks of a core. -/
structure World.Law.Indulges (law : World.Law Memory) (core : Plugin.CoreId) : Prop where
  busy (state : State) (busy : Bool) : law.Grants state (.setBusy core busy)
  staged (state : State) (stage : Plugin.Stage) : law.Grants state (.setStage core stage)
  hooked (state : State) (code : CodeId) (moment : Plugin.Hook) :
    law.Grants state (.note (.called code (.hook moment) core))

structure Action.Keeps (law : World.Law Memory) (action : Action Memory α) : Prop where
  comes (world : World Memory) : law.comes world (action.on world).2

/-- Where the law has come from some world so far, an action lets it come further. -/
structure Action.Upholds (law : World.Law Memory) (start : World Memory)
    (action : Action Memory α) : Prop where
  comes (world : World Memory) : law.comes start world → law.comes start (action.on world).2

/-- Calling code keeps the law. -/
structure Caller.Keeps (law : World.Law Memory) (call : Caller Memory) : Prop where
  comes (code : CodeId) (role : Role) (input : role.Input) (subject : role.Subject)
    (world : World Memory) : law.comes world ((call code role input subject).run world).2

end PluginBridge
