import PluginBridge.Proofs.Lifecycle.Load
import PluginBridge.Proofs.Lifecycle.Turns
import PluginBridge.Proofs.State.Phases
import PluginBridge.Proofs.World.Progress

/-! Entry points. The host asks an entry point to be enabled or disabled as often as it
likes, and in any order. The first time that it asks for it to be enabled the plugin is
loaded, its constructor is called once, and the core is enabled; all later requests of this
kind find the entry point used and do nothing. Who asks for it to be disabled reaches the
core, if there is one. -/
namespace PluginBridge
open Plugin
variable {Memory : Type} {entry : EntryId} {known : Entry}

/-! ## Entry points that are used -/

namespace State
variable {state : State} {change : Change}

/-- An entry point that has not been used has no core. -/
def Untied (state : State) (entry : EntryId) : Prop :=
  ∀ known, state.entries[entry]? = some known → known.used = false → known.core = none

/-- An entry point that has been used stays as it is. -/
structure Retains (entry : EntryId) (state later : State) : Prop where
  untied : later.Untied entry
  used : ∀ known, state.entries[entry]? = some known → known.used = true →
    later.entries[entry]? = some known

end State

/-- What the host may ask of an entry point. -/
inductive EntryRequest where
  | enable
  | disable
deriving DecidableEq, Repr

/-- The requests that matter to an entry point that has not been used: the first one to
enable it, and after it those to disable it. -/
def EntryRequest.essential : List EntryRequest → List EntryRequest
  | [] => []
  | .enable :: rest => .enable :: rest.filter (· = .disable)
  | .disable :: rest => essential rest

/-- Whether a change is about an entry point that is there. -/
def Change.handles (entry : EntryId) : Change → Bool
  | .useEntry id | .tie id _ => id = entry
  | _ => false

namespace State
variable {state between later : State} {change : Change}

theorem Retains.trans (first : state.Retains entry between) (second : between.Retains entry later) :
    state.Retains entry later :=
  ⟨second.untied, fun known there used => second.used known (first.used known there used) used⟩

theorem entries_use (there : state.entries[entry]? = some known) :
    (state.change (.useEntry entry)).entries[entry]? = some { known with used := true } := by
  simp [change, updateEntry, there]

theorem entries_tie (there : state.entries[entry]? = some known) (core : CoreId) :
    (state.change (.tie entry core)).entries[entry]? = some { known with core := some core } := by
  simp [change, updateEntry, there]

/-- An entry point that is used need not have a core yet. -/
theorem untied_use (state : State) (entry : EntryId) :
    (state.change (.useEntry entry)).Untied entry := by
  intro known there unused
  simp only [State.change, updateEntry, List.getElem?_modify_eq] at there
  obtain ⟨before, -, rfl⟩ := Option.map_eq_some_iff.mp there
  cases unused

/-- A change about none that is there leaves an entry point alone, or adds it: one that is added
gets the next number, which may be the one in question. -/
theorem entries_change (state : State) (foreign : change.handles entry = false) :
    (state.change change).entries[entry]? = state.entries[entry]? ∨
      state.entries[entry]? = none ∧ ∃ data code dataFolder,
        (state.change change).entries[entry]? = some ⟨data, code, dataFolder, false, none⟩ := by
  rw [(life_change state change).2.1]
  cases change with
  | newEntry data code dataFolder =>
    simp only [Change.onEntries]
    obtain inside | rfl | beyond := Nat.lt_trichotomy entry state.entries.length
    · exact .inl (List.getElem?_append_left inside)
    · exact .inr ⟨List.getElem?_eq_none (Nat.le_refl _), data, code, dataFolder, by simp⟩
    · left
      rw [List.getElem?_eq_none (by simp; omega), List.getElem?_eq_none (Nat.le_of_lt beyond)]
  | useEntry id =>
    exact .inl (List.getElem?_modify_ne _ _ (by simpa [Change.handles] using foreign))
  | tie id core =>
    exact .inl (List.getElem?_modify_ne _ _ (by simpa [Change.handles] using foreign))
  | _ => exact .inl rfl

theorem Untied.retains (untied : state.Untied entry) (foreign : change.handles entry = false) :
    state.Retains entry (state.change change) := by
  obtain same | ⟨nowhere, data, code, dataFolder, added⟩ := entries_change state foreign
  · exact ⟨fun known there => untied known (same ▸ there), fun known there _ => same ▸ there⟩
  · refine ⟨fun known there unused => ?_, fun known there _ => ?_⟩
    · rw [added] at there
      cases there
      rfl
    · rw [nowhere] at there
      cases there

/-- No change makes an entry point unused again. -/
theorem Reaches.used {known : Entry} (reaches : state.Reaches later)
    (there : state.entries[entry]? = some known) (used : known.used = true) :
    ∃ now, later.entries[entry]? = some now ∧ now.used = true := by
  refine reaches.keeps (fun later => ∃ now, later.entries[entry]? = some now ∧ now.used = true)
    (fun later change _ held => ?_) ⟨known, there, used⟩
  obtain ⟨now, still, used⟩ := held
  cases foreign : change.handles entry with
  | false =>
    obtain same | ⟨nowhere, -⟩ := entries_change later foreign
    · exact ⟨now, same.trans still, used⟩
    · rw [nowhere] at still
      cases still
  | true =>
    rw [(life_change later change).2.1]
    cases change with
    | useEntry id =>
      obtain rfl : id = entry := by simpa [Change.handles] using foreign
      exact ⟨{ now with used := true }, by simp [Change.onEntries, still], rfl⟩
    | tie id core =>
      obtain rfl : id = entry := by simpa [Change.handles] using foreign
      exact ⟨{ now with core := some core }, by simp [Change.onEntries, still], used⟩
    | _ => cases foreign

end State

namespace World.Law

/-- The law that entry points are used once: changes lead on, and an entry point that has
been used stays as it is. -/
def retaining (entry : EntryId) : World.Law Memory :=
  World.ChangeLaw.toLaw {
    rule := fun _ _ => True
    comes := fun world later => world.Reaches later ∧
      (world.state.Untied entry → world.state.Retains entry later.state)
    refl := fun world => ⟨.refl world, fun untied => ⟨untied, fun _ there _ => there⟩⟩
    trans := fun first second => ⟨first.1.trans second.1, fun untied =>
      (first.2 untied).trans (second.2 (first.2 untied).untied)⟩
    incidental := fun change world incidental => ⟨.alter (world.state.changed change),
      fun untied => untied.retains (by cases change <;> first | rfl | cases incidental)⟩
    asked := fun change world plain _ => ⟨.alter (world.state.changed change),
      fun untied => untied.retains (by cases change <;> first | rfl | cases plain)⟩
    remembered := fun world _ => ⟨.refl world, fun untied => ⟨untied, fun _ there _ => there⟩⟩
    defined := fun world _ _ => ⟨⟨.refl world.state, List.prefix_append ..⟩,
      fun untied => ⟨untied, fun _ there _ => there⟩⟩
    reckless := fun reckless _ => absurd (fun _ _ _ _ => Program.minds_of_lax _ none) reckless }

theorem retaining_grants (state : State) {change : Change}
    (foreign : change.handles entry = false) :
    (retaining entry : World.Law Memory).Grants state change := by
  rintro world rfl
  exact ⟨.alter (world.state.changed change), fun untied => untied.retains foreign⟩

theorem retaining_indulges (core : CoreId) : (retaining entry : World.Law Memory).Indulges core :=
  ⟨fun state _ => retaining_grants state rfl, fun state _ => retaining_grants state rfl,
    fun state _ _ => retaining_grants state rfl⟩

theorem retaining_serves {adapter : AdapterId} (state : State) (change : Change)
    (serves : change.adapter? = some adapter) :
    (retaining entry : World.Law Memory).Grants state change :=
  retaining_grants state (by cases change <;> first | rfl | cases serves)

end World.Law

namespace State
variable {state later : State}

/-- There is nothing left of an entry point to use. -/
def Spent (state : State) (entry : EntryId) : Prop :=
  ∀ known, state.entries[entry]? = some known → known.used = true

theorem Spent.untied (spent : state.Spent entry) : state.Untied entry := by
  intro known there unused
  rw [spent known there] at unused
  cases unused

theorem Spent.retains (spent : state.Spent entry) (retains : state.Retains entry later)
    (there : state.entries[entry]? = some known) : later.Spent entry := by
  intro now still
  rw [retains.used known there (spent known there)] at still
  cases still
  exact spent known there

end State

/-- How the plugin behind an entry point is loaded. -/
def Plugin.Entry.order (known : Entry) : LoadOrder :=
  ⟨known.data, known.code, known.dataFolder, none, none⟩

namespace Action
variable {call : Caller Memory} {world : World Memory}

/-! ## The first request -/

/-- An entry point that is used, or is not there, is not enabled again. -/
theorem on_enableEntry_spent (spent : world.state.Spent entry) :
    (enableEntry call entry).on world = (.ok (), world) := by
  unfold enableEntry
  rw [on_bind_ok (on_see ..)]
  cases there : world.state.entries[entry]? with
  | none => rfl
  | some known => simp [spent known there]

/-- What is left to do when an entry point counts as used: its plugin is loaded, and if that
succeeds, enabled. -/
def introduce (call : Caller Memory) (entry : EntryId) (known : Entry) : Action Memory Unit := do
  match ← load call known.order with
  | .error failure => log (entryRecord "loading" failure.message)
  | .ok core =>
    update (·.updateEntry entry fun known => { known with core := some core })
    report "enabling" (← enable call core)

theorem on_enableEntry_unused (there : world.state.entries[entry]? = some known)
    (unused : known.used = false) :
    (enableEntry call entry).on world =
      (introduce call entry known).on (world.alter (·.change (.useEntry entry))) := by
  unfold enableEntry
  rw [on_bind_ok (on_see ..), there]
  simp only [unused, Bool.false_eq_true, if_false]
  rw [on_bind_ok (on_update ..)]
  rfl

theorem on_introduce_failed {left : World Memory} {failure : LoadFailure}
    (failed : (load call known.order).on world = (.ok (.error failure), left)) :
    (introduce call entry known).on world =
      (.ok (), left.alter (·.log (entryRecord "loading" failure.message))) := by
  unfold introduce
  rw [on_bind_ok failed]
  rfl

theorem on_introduce_loaded {left : World Memory} {core : CoreId}
    (loaded : (load call known.order).on world = (.ok (.ok core), left)) :
    (introduce call entry known).on world =
      (enable call core >>= report "enabling").on (left.alter (·.change (.tie entry core))) := by
  unfold introduce
  rw [on_bind_ok loaded]
  rfl

/-- After a request to enable it there is nothing left of an entry point to use. -/
theorem enableEntry_spends (steady : call.Keeps .reaching) (world : World Memory) :
    ((enableEntry call entry).on world).2.state.Spent entry := by
  have living := @World.Law.reaching_living Memory
  by_cases spent : world.state.Spent entry
  · rw [on_enableEntry_spent spent]
    exact spent
  · obtain ⟨known, there, unused⟩ : ∃ known, world.state.entries[entry]? = some known ∧
        known.used = false := by simpa [State.Spent] using spent
    have introduces : (introduce call entry known).Keeps .reaching := by
      refine (keeps_load (living.construct steady) _).bind fun loaded => ?_
      split
      · exact keeps_log _
      · exact Keeps.bind ⟨fun world => World.Law.reaching_grants _ (.tie entry _) world rfl⟩
          fun _ => (living.enable steady _).bind fun _ => keeps_report ..
    have led := introduces.comes (world.alter (·.change (.useEntry entry)))
    obtain ⟨later, listed, used⟩ := State.Reaches.used led.1 (State.entries_use there) rfl
    rw [on_enableEntry_unused there unused]
    intro now still
    rw [listed] at still
    cases still
    exact used

end Action

namespace World.Law

section
variable {call : Caller Memory} (steady : call.Keeps (retaining entry))
include steady

theorem retaining_reaches : call.Keeps .reaching :=
  ⟨fun code role input subject world => (steady.comes code role input subject world).1⟩

theorem retaining_construct (order : LoadOrder) (settings : Settings.Loaded) :
    (Action.construct call order settings).Keeps (retaining entry) :=
  ⟨fun _ => Action.construct_comes steady (retaining_grants _ rfl) (retaining_indulges _)⟩

theorem retaining_enable (core : CoreId) : (Action.enable call core).Keeps (retaining entry) :=
  ⟨fun _ => Action.enable_comes steady (retaining_indulges core)
    fun _ _ later _ change serves => retaining_serves later.state change serves⟩

theorem retaining_disable (core : CoreId) : (Action.disable call core).Keeps (retaining entry) :=
  ⟨fun _ => Action.disable_comes steady (retaining_indulges core)
    fun _ _ later _ change serves => retaining_serves later.state change serves⟩

/-- The request that makes use of the entry point is the only one that changes it. -/
theorem retaining_enableEntry (id : EntryId) :
    (Action.enableEntry call id).Keeps (retaining entry) := by
  obtain rfl | apart := eq_or_ne id entry
  · refine ⟨fun world => ⟨?_, fun untied => ⟨?_, fun known there used => ?_⟩⟩⟩
    · exact (reaching_living.enableEntry (retaining_reaches steady) id).comes world
    · exact (Action.enableEntry_spends (retaining_reaches steady) world).untied
    · have spent : world.state.Spent id := by
        intro now still
        rw [there] at still
        cases still
        exact used
      rw [Action.on_enableEntry_spent spent]
      exact there
  · exact Action.keeps_enableEntry
      (fun state => retaining_grants state (by simpa [Change.handles] using apart))
      (fun state core => retaining_grants state (by simpa [Change.handles] using apart))
      (Action.keeps_load (retaining_construct steady)) (retaining_enable steady)

end

/-- Whatever code may do, an entry point is used once. -/
theorem retaining_living : (retaining entry : World.Law Memory).Living :=
  ⟨retaining_construct, retaining_enable, retaining_disable, retaining_enableEntry⟩

end World.Law

/-- The settings of the plugin behind an entry point. -/
def Plugin.Entry.settings (known : Entry) (surroundings : Surroundings) :
    Except Settings.Failure Settings.Loaded :=
  ((known.order.loaderIn surroundings).load surroundings).2

/-- The world in which the constructor of the plugin behind an entry point is called. -/
def World.opening (world : World Memory) (entry : EntryId) (known : Entry)
    (settings : Settings.Loaded) : World Memory :=
  (((world.alter (·.change (.useEntry entry))).loaded known.order settings).constructing
    known.order.settled settings).alter
      (·.note (.called known.code (.hook .create) world.state.cores.length))

/-- What the first request to enable an entry point comes to. -/
inductive World.Opening (call : Caller Memory) (entry : EntryId) (known : Entry)
    (world : World Memory) : Except Stop Unit × World Memory → Prop where
  /-- Without settings no constructor is called. -/
  | unsettled {failure : Settings.Failure} {records : List Log.Record}
      (unsettled : known.settings world.state.surroundings = .error failure) :
      Opening call entry known world (.ok (), (world.alter (·.change (.useEntry entry))).alter
        (·.logAll records))
  /-- The constructor has been called once, and has failed. -/
  | failed {settings : Settings.Loaded} {called : Called (.hook .create) × World Memory}
      {ending : Except Payload (Except String Unit)} {reason : String} {records : List Log.Record}
      (settled : known.settings world.state.surroundings = .ok settings)
      (constructed : (call known.code (.hook .create) world.state.cores.length ()).run
        (world.opening entry known settings) = called)
      (caught : called.1.caught = .ok (ending, ())) (fault : Action.hookFault ending = some reason)
      (left : called.2.state.entries[entry]? = some { known with used := true })
      {after : World Memory} (told : after = called.2.alter (·.logAll records)) :
      Opening call entry known world (.ok (), after)
  /-- The constructor has been called and was cut short: nothing goes on from there. -/
  | cut {settings : Settings.Loaded} {called : Called (.hook .create) × World Memory} {stop : Stop}
      (settled : known.settings world.state.surroundings = .ok settings)
      (constructed : (call known.code (.hook .create) world.state.cores.length ()).run
        (world.opening entry known settings) = called)
      (caught : called.1.caught = .error stop)
      (left : called.2.state.entries[entry]? = some { known with used := true }) :
      Opening call entry known world (.error stop, called.2)
  /-- The constructor has been called once, and the core that it has made is enabled. -/
  | loaded {settings : Settings.Loaded} {called : Called (.hook .create) × World Memory}
      {record : Log.Record} {start : World Memory}
      (settled : known.settings world.state.surroundings = .ok settings)
      (constructed : (call known.code (.hook .create) world.state.cores.length ()).run
        (world.opening entry known settings) = called)
      (caught : called.1.caught = .ok (.ok (.ok ()), ()))
      (begun : start = ((called.2.alter (·.log record)).alter
        (·.change (.setStage world.state.cores.length .loaded))).alter
          (·.change (.tie entry world.state.cores.length)))
      (tied : start.state.entries[entry]? =
        some { known with used := true, core := some world.state.cores.length }) :
      Opening call entry known world
        ((Action.enable call world.state.cores.length >>= Action.report "enabling").on start)

namespace Action
variable {call : Caller Memory} {world : World Memory}

section
variable (steady : call.Keeps (.retaining entry))
include steady

/-- The first request to enable an entry point calls the constructor once at most, which leaves the
entry point as it is, and goes on to the core if the constructor has made one. -/
theorem enableEntry_opens (there : world.state.entries[entry]? = some known)
    (unused : known.used = false) :
    world.Opening call entry known ((enableEntry call entry).on world) := by
  have spent := State.entries_use there
  rw [on_enableEntry_unused there unused]
  cases settled : known.settings world.state.surroundings with
  | error failure =>
    rw [on_introduce_failed (on_load_unsettled call (by exact settled)), World.loading,
      World.alter_logAll_log]
    exact .unsettled settled
  | ok settings =>
    have constructs : (load call known.order).on (world.alter (·.change (.useEntry entry))) =
        (construct call known.order.settled settings).on
          ((world.alter (·.change (.useEntry entry))).loaded known.order settings) :=
      on_load_settled call (by exact settled) rfl
    obtain ⟨called, constructed⟩ : ∃ called,
      (call known.code (.hook .create) world.state.cores.length ()).run
        (world.opening entry known settings) = called := ⟨_, rfl⟩
    have ran : (attempt call known.code (.hook .create) world.state.cores.length ()).on
        (((world.alter (·.change (.useEntry entry))).loaded known.order settings).constructing
          known.order.settled settings) = (called.1.caught, called.2) := by
      rw [← constructed]
      exact on_attempt_caught ..
    have left : called.2.state.entries[entry]? = some { known with used := true } := by
      have comes := steady.comes known.code (.hook .create) world.state.cores.length ()
        (world.opening entry known settings)
      rw [constructed] at comes
      exact (comes.2 (State.untied_use _ _)).used _ spent rfl
    cases caught : called.1.caught with
    | error stop =>
      rw [caught] at ran
      have cut := constructs.trans (on_construct_error call known.order.settled settings ran)
      rw [introduce, on_bind_error cut]
      exact .cut settled constructed caught left
    | ok result =>
      obtain ⟨ending, _⟩ := result
      rw [caught] at ran
      obtain ⟨record, done⟩ := on_construct call known.order.settled settings ran
      have loads := constructs.trans done
      rcases ending with payload | message | _
      · rw [on_introduce_failed loads]
        exact .failed settled constructed caught rfl left (World.alter_logAll_log _ [record] _)
      · rw [on_introduce_failed loads]
        exact .failed settled constructed caught rfl left (World.alter_logAll_log _ [record] _)
      · rw [on_introduce_loaded loads]
        exact .loaded settled constructed caught rfl (State.entries_tie left _)

end

/-- An entry point without a core is not disabled. -/
theorem on_disableEntry_untied
    (untied : ∀ known, world.state.entries[entry]? = some known → known.core = none) :
    (disableEntry call entry).on world = (.ok (), world) := by
  unfold disableEntry
  rw [on_bind_ok (on_see ..)]
  cases there : world.state.entries[entry]? with
  | none => rfl
  | some known => simp [untied known there]

/-- Else its core is. -/
theorem on_disableEntry_tied {core : CoreId} (there : world.state.entries[entry]? = some known)
    (tied : known.core = some core) :
    (disableEntry call entry).on world =
      (disable call core >>= report "disabling").on world := by
  unfold disableEntry
  rw [on_bind_ok (on_see ..), there]
  simp [tied]

/-! ## Requests one after the other -/

/-- Requests of the host to an entry point, one after the other. -/
def serve (call : Caller Memory) (entry : EntryId) : List EntryRequest → Action Memory Unit
  | [] => pure ()
  | request :: rest => do
    match request with
    | .enable => enableEntry call entry
    | .disable => disableEntry call entry
    serve call entry rest

theorem calm_serve (call : Caller Memory) (entry : EntryId) (requests : List EntryRequest) :
    Calm call (serve call entry requests) := by
  induction requests with
  | nil => exact calm_pure ()
  | cons request rest ih =>
    cases request with
    | enable => exact (calm_enableEntry call entry).bind fun _ => ih
    | disable => exact (calm_disableEntry call entry).bind fun _ => ih

section
variable (steady : call.Keeps (.retaining entry))
include steady

/-- Of an entry point that is used only its core can still be disabled. The hook that is called then
may ask for anything, but not make the entry point unused. -/
theorem on_serve_spent (requests : List EntryRequest) (spent : world.state.Spent entry) :
    (serve call entry requests).on world =
      (serve call entry (requests.filter (· = .disable))).on world := by
  induction requests generalizing world with
  | nil => rfl
  | cons request rest ih =>
    cases request with
    | enable => exact (on_bind_ok (on_enableEntry_spent spent)).trans (ih spent)
    | disable =>
      have later : ((disableEntry call entry).on world).2.state.Spent entry := by
        cases there : world.state.entries[entry]? with
        | none =>
          rw [on_disableEntry_untied (by simp [there])]
          exact spent
        | some known =>
          have keeps := keeps_disableEntry (World.Law.retaining_living.disable steady) entry
          exact spent.retains ((keeps.comes world).2 spent.untied) there
      change (disableEntry call entry >>= fun _ => serve call entry rest).on world =
        (disableEntry call entry >>= fun _ => serve call entry (rest.filter _)).on world
      rw [on_bind, on_bind]
      generalize (disableEntry call entry).on world = ran at later
      rcases ran with ⟨stop | _, left⟩
      · rfl
      · exact ih later

/-- Before the first request to enable an entry point nothing is done, and after it the
entry point is used. -/
theorem on_serve_fresh (requests : List EntryRequest) (untied : world.state.Untied entry)
    (fresh : ∀ known, world.state.entries[entry]? = some known → known.used = false) :
    (serve call entry requests).on world =
      (serve call entry (EntryRequest.essential requests)).on world := by
  induction requests with
  | nil => rfl
  | cons request rest ih =>
    cases request with
    | enable =>
      have later : ((enableEntry call entry).on world).2.state.Spent entry :=
        enableEntry_spends (World.Law.retaining_reaches steady) world
      change (enableEntry call entry >>= fun _ => serve call entry rest).on world =
        (enableEntry call entry >>= fun _ => serve call entry (rest.filter _)).on world
      rw [on_bind, on_bind]
      generalize (enableEntry call entry).on world = ran at later
      rcases ran with ⟨stop | _, left⟩
      · rfl
      · exact on_serve_spent steady rest later
    | disable =>
      have idle : (disableEntry call entry).on world = (.ok (), world) :=
        on_disableEntry_untied fun known there => untied known there (fresh known there)
      exact (on_bind_ok idle).trans ih

end
end Action

end PluginBridge
