import PluginBridge.Proofs.State.Attachment
import PluginBridge.Proofs.State.Cores

/-! Where a plugin core stands in its life. A phase fixes the stage of the core, how often
each hook has been called, and whether the core's adapter hears the host. Changes that have
nothing to do with a core leave it in its phase, and the changes that make up a turn in its
life lead from phase to phase. -/
namespace PluginBridge
open Plugin

namespace Plugin

/-- The phases of a core's life. Hooks run in the phases between the others. A core whose
constructor has failed stays under construction. -/
inductive Phase where
  | absent
  | constructing
  | loaded
  | enabling
  | enabled
  | disabling
  | disabled
deriving DecidableEq, Repr

/-- The phase in which a core is ready for a hook. -/
def Hook.before : Hook → Phase
  | .create => .absent
  | .enable => .loaded
  | .disable => .enabled

/-- The phase in which a hook runs. -/
def Hook.phase : Hook → Phase
  | .create => .constructing
  | .enable => .enabling
  | .disable => .disabling

/-- The phase that a hook leads to when it has returned. -/
def Hook.after : Hook → Phase
  | .create => .loaded
  | .enable => .enabled
  | .disable => .disabled

namespace Phase

def rank : Phase → Nat
  | absent => 0
  | constructing => 1
  | loaded => 2
  | enabling => 3
  | enabled => 4
  | disabling => 5
  | disabled => 6

def isUnderWay : Phase → Bool
  | constructing | enabling | disabling => true
  | _ => false

/-- The stage of a core in this phase, and whether it is busy, unless it does not exist. -/
def standing? : Phase → Option (Option Stage × Bool)
  | absent => none
  | constructing => some (none, false)
  | loaded => some (some .loaded, false)
  | enabling => some (some .enabled, true)
  | enabled => some (some .enabled, false)
  | disabling => some (some .enabled, true)
  | disabled => some (some .disabled, false)

/-- The stage in which a core can be worked with. -/
def stage? : Phase → Option Stage
  | loaded => some .loaded
  | enabled => some .enabled
  | disabled => some .disabled
  | _ => none

/-- How often a hook has been called. -/
def calls (phase : Phase) (moment : Hook) : Nat :=
  if moment.phase.rank ≤ phase.rank then 1 else 0

/-- Whether the core's adapter hears the host. -/
def isAttached : Phase → Bool
  | enabling | enabled | disabling => true
  | _ => false

/-- A life goes from one phase to another, unless it is held up by a hook that runs. -/
structure Leads (phase later : Phase) : Prop where
  onward : phase.rank ≤ later.rank
  waits : phase.isUnderWay = true → later = phase

variable {phase between later : Phase}

theorem Leads.refl (phase : Phase) : phase.Leads phase := ⟨Nat.le_refl _, fun _ => rfl⟩

theorem Leads.trans (first : phase.Leads between) (second : between.Leads later) :
    phase.Leads later where
  onward := first.onward.trans second.onward
  waits underWay := by
    obtain rfl := first.waits underWay
    exact second.waits underWay

end Phase
end Plugin

/-- A hook of a core has been called. -/
def Happening.isCallOf (core : CoreId) (moment : Hook) : Happening → Bool
  | .called _ (.hook kind) input => kind = moment && input = core
  | _ => false

namespace Change

/-- What a change makes of the cores. A new core gets the given adapter. -/
def onCores (adapter : AdapterId) (cores : List Core) : Change → List Core
  | .construct _ data settings code => cores ++ [⟨data, adapter, settings, code, none, false⟩]
  | .setStage core stage => cores.modify core fun known => { known with stage := some stage }
  | .setBusy core busy => cores.modify core fun known => { known with busy }
  | _ => cores

def onEntries (entries : List Entry) : Change → List Entry
  | .newEntry data code dataFolder => entries ++ [⟨data, code, dataFolder, false, none⟩]
  | .useEntry entry => entries.modify entry fun known => { known with used := true }
  | .tie entry core => entries.modify entry fun known => { known with core := some core }
  | _ => entries

def noted : Change → List Happening
  | .note happening => [happening]
  | _ => []

end Change

namespace State
variable {state later : State} {core : CoreId}

/-- The cores, the entry points and the history are changed by few changes. -/
theorem life_change (state : State) (change : Change) :
    (state.change change).cores = change.onCores state.adapters.length state.cores ∧
      (state.change change).entries = change.onEntries state.entries ∧
      (state.change change).history = state.history ++ change.noted := by
  cases registers : change.registers with
  | true =>
    obtain ⟨registry, adapters, logs, -, same⟩ := registers_change state registers
    rw [same]
    cases change <;> first
      | exact ⟨rfl, rfl, (List.append_nil _).symm⟩
      | cases registers
  | false =>
    cases change <;> first
      | exact ⟨rfl, rfl, (List.append_nil _).symm⟩
      | exact ⟨rfl, rfl, rfl⟩
      | cases registers

/-- What has happened stays in the history. -/
theorem Reaches.history_grows (reaches : state.Reaches later) :
    state.history <+: later.history :=
  reaches.keeps (fun later => state.history <+: later.history)
    (fun between change _ before => (life_change between change).2.2 ▸
      before.trans (List.prefix_append ..)) (List.prefix_refl _)

/-- How often a hook of a core has been called. -/
def hookCalls (state : State) (core : CoreId) (moment : Hook) : Nat :=
  state.history.countP (·.isCallOf core moment)

/-- A change is no part of a core's life. -/
def Bypasses (core : CoreId) (state : State) : Change → Prop
  | .setStage other _ | .setBusy other _ => other ≠ core
  | .note happening => ∀ moment, happening.isCallOf core moment = false
  | .construct .. => state.cores.length ≠ core
  | _ => True

/-- Nobody but the core itself works its adapter or takes a listener from it, in any state
that a world can come to. -/
def LeavesCore (core : CoreId) (state : State) (change : Change) : Prop :=
  state.Reachable → ∀ known, state.cores[core]? = some known →
    state.LeavesAdapter known.adapter change

/-- A change that is no part of its life leaves a core as it is. -/
theorem Bypasses.same_core {change : Change} (bypasses : state.Bypasses core change) :
    (state.change change).cores[core]? = state.cores[core]? := by
  rw [(life_change state change).1]
  cases change with
  | construct platform data settings code =>
    have apart : state.cores.length ≠ core := bypasses
    simp only [Change.onCores]
    obtain inside | beyond := Nat.lt_or_gt_of_ne apart.symm
    · rw [List.getElem?_append_left inside]
    · rw [List.getElem?_eq_none (by simp; omega), List.getElem?_eq_none (Nat.le_of_lt beyond)]
  | setStage other stage => exact List.getElem?_modify_ne _ _ bypasses
  | setBusy other busy => exact List.getElem?_modify_ne _ _ bypasses
  | _ => rfl

theorem Bypasses.same_calls {change : Change} (bypasses : state.Bypasses core change)
    (moment : Hook) :
    (state.change change).hookCalls core moment = state.hookCalls core moment := by
  rw [State.hookCalls, (life_change state change).2.2, List.countP_append, ← State.hookCalls]
  cases change with
  | note happening =>
    have none : happening.isCallOf core moment = false := bypasses moment
    simp [Change.noted, none]
  | _ => rfl

/-! ## Cores that are there -/

/-- How a core appears: its seat is its adapter, its stage and whether it is busy. -/
structure Shows (state : State) (core : CoreId) (seat : AdapterId × Option Stage × Bool)
    (calls : Hook → Nat) (attached : Bool) : Prop where
  seated : (state.cores[core]?).map (fun known => (known.adapter, known.stage, known.busy)) =
    some seat
  calls : ∀ moment, state.hookCalls core moment = calls moment
  holds : (state.adapter seat.1).isAttached = attached
  hears : (state.heardBy seat.1).map (·.kind) =
    if attached then Adapter.kinds state.host.kind else []

namespace Shows
variable {adapter : AdapterId} {stage : Option Stage} {busy attached : Bool}
  {seat : AdapterId × Option Stage × Bool} {calls : Hook → Nat}

theorem bypass {change : Change} (shows : state.Shows core seat calls attached)
    (owned : state.Owned) (bypasses : state.Bypasses core change)
    (leaves : state.LeavesAdapter seat.1 change) :
    (state.change change).Shows core seat calls attached := by
  obtain ⟨heard, numbers⟩ := owned.heard_change leaves
  refine ⟨?_, fun moment => ?_, ?_, ?_⟩
  · rw [bypasses.same_core, shows.seated]
  · rw [bypasses.same_calls, shows.calls]
  · rw [Adapter.isAttached, numbers, ← Adapter.isAttached, shows.holds]
  · rw [heard, kind_change, shows.hears]

/-- Several changes that leave a core alone wherever they are made. -/
theorem reaches {allowed : Change → Prop} (shows : state.Shows core seat calls attached)
    (owned : state.Owned) (quiet : ∀ change, allowed change →
      ∀ state : State, state.Bypasses core change ∧ state.LeavesAdapter seat.1 change)
    (reaches : state.ReachesBy allowed later) : later.Shows core seat calls attached := by
  have law : later.Owned ∧ later.Shows core seat calls attached := by
    refine reaches.keeps (fun state => state.Owned ∧ state.Shows core seat calls attached)
      (fun state change allows => ?_) ⟨owned, shows⟩
    rintro ⟨owned, shows⟩
    exact ⟨owned.change change, shows.bypass owned (quiet change allows state).1
      (quiet change allows state).2⟩
  exact law.2

theorem setBusy (shows : state.Shows core (adapter, stage, busy) calls attached) (now : Bool) :
    (state.change (.setBusy core now)).Shows core (adapter, stage, now) calls attached := by
  refine ⟨?_, shows.calls, shows.holds, shows.hears⟩
  obtain ⟨known, there, same⟩ := Option.map_eq_some_iff.mp shows.seated
  cases same
  simp [State.change, updateCore, there]

theorem setStage (shows : state.Shows core (adapter, stage, busy) calls attached) (now : Stage) :
    (state.change (.setStage core now)).Shows core (adapter, some now, busy) calls attached := by
  refine ⟨?_, shows.calls, shows.holds, shows.hears⟩
  obtain ⟨known, there, same⟩ := Option.map_eq_some_iff.mp shows.seated
  cases same
  simp [State.change, updateCore, there]

theorem called (shows : state.Shows core seat calls attached) (code : CodeId) (moment : Hook) :
    (state.change (.note (.called code (.hook moment) core))).Shows core seat
      (fun other => calls other + if other = moment then 1 else 0) attached := by
  refine ⟨shows.seated, fun other => ?_, shows.holds, shows.hears⟩
  rw [← shows.calls other, hookCalls, hookCalls]
  simp [State.change, note, List.countP_append, Happening.isCallOf, List.countP_cons, eq_comm]

/-- What changes in the host and the adapters only. -/
theorem of_heard (shows : state.Shows core seat calls attached) {change : Change} {now : Bool}
    (bypasses : state.Bypasses core change)
    (held : ((state.change change).adapter seat.1).isAttached = now)
    (heard : ((state.change change).heardBy seat.1).map (·.kind) =
      if now then Adapter.kinds state.host.kind else []) :
    (state.change change).Shows core seat calls now := by
  refine ⟨?_, fun moment => ?_, held, ?_⟩
  · rw [bypasses.same_core, shows.seated]
  · rw [bypasses.same_calls, shows.calls]
  · rw [kind_change, heard]

theorem attach (shows : state.Shows core seat calls false)
    (accepted : (state.attach seat.1).2 = .ok ()) :
    (state.change (.attach seat.1)).Shows core seat calls true := by
  have attached : ((state.attach seat.1).1.adapter seat.1).isAttached = true := by
    obtain ⟨-, attached⟩ | ⟨refused, -⟩ := attach_outcome state seat.1
    · exact attached
    · exact absurd accepted refused
  have silent : state.heardBy seat.1 = [] := by simpa using shows.hears
  refine shows.of_heard trivial attached ?_
  obtain same | ⟨heard, -⟩ := attach_new silent
  · rw [same, shows.holds] at attached
    cases attached
  · rw [State.change, heard]
    exact (kinds_listenersFrom ..).1

theorem detach (shows : state.Shows core seat calls attached) (owned : state.Owned) :
    (state.change (.detach seat.1)).Shows core seat calls false := by
  refine shows.of_heard trivial (isAttached_detach state seat.1) ?_
  simp [State.change, owned.heardBy_detach]

end Shows

/-- A new core has an adapter of its own, which hears nothing. -/
theorem Owned.construct_shows (owned : state.Owned) (platform : String) (data : Data)
    (settings : Settings.Loaded) (code : CodeId)
    (uncalled : ∀ moment, state.hookCalls state.cores.length moment = 0) :
    (state.change (.construct platform data settings code)).Shows state.cores.length
      (state.adapters.length, none, false) (fun _ => 0) false := by
  have absent : state.hasAdapter state.adapters.length = false := by simp [hasAdapter]
  have numbers : ((state.change (.construct platform data settings code)).adapter
      state.adapters.length).listeners = [] := by
    refine (view_addAdapter Adapter.listeners (fun _ _ _ => rfl) platform ..).trans ?_
    rw [adapter_of_absent absent]
    rfl
  have owned := owned.change (.construct platform data settings code)
  refine ⟨?_, uncalled, by rw [Adapter.isAttached, numbers]; rfl, ?_⟩
  · simp [State.change, addAdapter, addCore]
  · have silent : (state.change (.construct platform data settings code)).heardBy
        state.adapters.length = [] := by
      refine List.filter_eq_nil_iff.mpr fun listener member => ?_
      rw [decide_eq_true_eq, owned.held listener member, numbers]
      exact List.not_mem_nil
    rw [silent]
    rfl

/-! ## Cores in their phases -/

/-- A core stands in a phase: it appears as cores do in this phase. -/
inductive Stands (state : State) (core : CoreId) : Phase → Prop where
  | absent (nowhere : state.cores[core]? = none)
      (uncalled : ∀ moment, state.hookCalls core moment = 0) : Stands state core .absent
  | present {phase : Phase} {adapter : AdapterId} {stage : Option Stage} {busy : Bool}
      (standing : phase.standing? = some (stage, busy))
      (shows : state.Shows core (adapter, stage, busy) phase.calls phase.isAttached) :
      Stands state core phase

theorem Shows.stands {phase : Phase} {adapter : AdapterId} {stage : Option Stage}
    {busy attached : Bool} {calls : Hook → Nat}
    (shows : state.Shows core (adapter, stage, busy) calls attached)
    (standing : phase.standing? = some (stage, busy))
    (called : ∀ moment, calls moment = phase.calls moment) (held : attached = phase.isAttached) :
    state.Stands core phase := by
  obtain rfl : calls = phase.calls := funext called
  subst held
  exact .present standing shows

namespace Stands
variable {phase other : Phase} {known : Core}

/-- A core that is there appears as its phase says. -/
theorem shows (stands : state.Stands core phase) (there : state.cores[core]? = some known) :
    phase.standing? = some (known.stage, known.busy) ∧
      state.Shows core (known.adapter, known.stage, known.busy) phase.calls phase.isAttached := by
  cases stands with
  | absent nowhere uncalled =>
    rw [nowhere] at there
    cases there
  | present standing shows =>
    have seated := shows.seated
    rw [there] at seated
    cases seated
    exact ⟨standing, shows⟩

theorem calls (stands : state.Stands core phase) (moment : Hook) :
    state.hookCalls core moment = phase.calls moment := by
  cases stands with
  | absent nowhere uncalled =>
    rw [uncalled]
    cases moment <;> rfl
  | present standing shows => exact shows.calls moment

theorem standing (stands : state.Stands core phase) :
    (state.cores[core]?).map (fun known => (known.stage, known.busy)) = phase.standing? := by
  cases stands with
  | absent nowhere uncalled => rw [nowhere]; rfl
  | present standing shows =>
    obtain ⟨known, there, same⟩ := Option.map_eq_some_iff.mp shows.seated
    cases same
    rw [there, standing]
    rfl

theorem absent_of_none (stands : state.Stands core phase) (nowhere : state.cores[core]? = none) :
    phase = .absent := by
  have standing := stands.standing
  rw [nowhere] at standing
  cases phase <;> first | rfl | cases standing

/-- A core stands in one phase only. -/
theorem unique (stands : state.Stands core phase) (too : state.Stands core other) :
    phase = other := by
  have standing := stands.standing.symm.trans too.standing
  have called := (stands.calls .disable).symm.trans (too.calls .disable)
  cases phase <;> cases other <;> first
    | rfl
    | exact absurd standing (by decide)
    | exact absurd called (by decide)

/-- Changes that are no part of its life leave a core in its phase. -/
theorem bypass {change : Change} (stands : state.Stands core phase) (reached : state.Reachable)
    (bypasses : state.Bypasses core change) (leaves : state.LeavesCore core change) :
    (state.change change).Stands core phase := by
  cases stands with
  | absent nowhere uncalled =>
    exact .absent (bypasses.same_core.trans nowhere) fun moment =>
      (bypasses.same_calls moment).trans (uncalled moment)
  | present standing shows =>
    obtain ⟨known, there, same⟩ := Option.map_eq_some_iff.mp shows.seated
    cases same
    exact .present standing (shows.bypass reached.owned bypasses (leaves reached known there))

theorem logAll (stands : state.Stands core phase) (records : List Log.Record) :
    (state.logAll records).Stands core phase := by
  cases stands with
  | absent nowhere uncalled => exact .absent nowhere uncalled
  | present standing shows =>
    exact .present standing ⟨shows.seated, shows.calls, shows.holds, shows.hears⟩

/-! ### Turns in a life -/

theorem begin (stands : state.Stands core .absent) (owned : state.Owned)
    (next : state.cores.length = core) (platform : String) (data : Data)
    (settings : Settings.Loaded) (code : CodeId) :
    ((state.change (.construct platform data settings code)).change
      (.note (.called code (.hook .create) core))).Stands core .constructing := by
  subst next
  have uncalled (moment : Hook) : state.hookCalls state.cores.length moment = 0 :=
    (stands.calls moment).trans (by cases moment <;> rfl)
  exact ((owned.construct_shows platform data settings code uncalled).called code .create).stands
    rfl (fun moment => by cases moment <;> rfl) rfl

theorem load (stands : state.Stands core .constructing) :
    (state.change (.setStage core .loaded)).Stands core .loaded := by
  cases stands with
  | present standing shows =>
    cases standing
    exact (shows.setStage .loaded).stands rfl (fun moment => by cases moment <;> rfl) rfl

theorem enable (stands : state.Stands core .loaded) (there : state.cores[core]? = some known)
    (accepted : (state.attach known.adapter).2 = .ok ()) (code : CodeId) :
    ((((state.change (.attach known.adapter)).change (.setStage core .enabled)).change
      (.setBusy core true)).change (.note (.called code (.hook .enable) core))).Stands core
        .enabling :=
  (((((stands.shows there).2.attach accepted).setStage .enabled).setBusy true).called code
    .enable).stands rfl (fun moment => by cases moment <;> rfl) rfl

theorem settle (stands : state.Stands core .enabling) :
    (state.change (.setBusy core false)).Stands core .enabled := by
  cases stands with
  | present standing shows =>
    cases standing
    exact (shows.setBusy false).stands rfl (fun moment => by cases moment <;> rfl) rfl

theorem disable (stands : state.Stands core .enabled) (code : CodeId) :
    ((state.change (.setBusy core true)).change
      (.note (.called code (.hook .disable) core))).Stands core .disabling := by
  cases stands with
  | present standing shows =>
    cases standing
    exact ((shows.setBusy true).called code .disable).stands rfl
      (fun moment => by cases moment <;> rfl) rfl

end Stands

end State
end PluginBridge
