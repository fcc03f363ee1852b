import Mathlib.Data.List.Induction
import PluginBridge.Proofs.Settings.Union
import PluginBridge.Settings.Loader

/-! How settings are layered. Whatever calls a loader is set up with, and in whatever
order calls of different kinds come, settings that can be loaded are the union of
four layers: what is built in, a file, the environment, and what the program sets. -/
namespace PluginBridge.Settings
open Decode

/-! ## Layers are in order -/

namespace Inline

theorem ordered_word (text : List Char) : Ordered (word text) := by
  unfold word
  dsimp only
  split
  · trivial
  · split <;> trivial

theorem ordered_bare (text : List Char) : Ordered (bare text).1 := by
  unfold bare
  split
  · trivial
  · trivial
  · exact ordered_word _

/-- Of the values that a table gives to one key the last one is kept in its place. -/
theorem ordered_read (fuel : Nat) :
    (∀ text value rest, value? fuel text = some (value, rest) → Ordered value) ∧
    ∀ entries text final rest, OrderedEntries entries →
      pairs? fuel entries text = some (final, rest) → OrderedEntries final := by
  induction fuel with
  | zero => exact ⟨fun _ _ _ read => by simp [value?] at read, fun _ _ _ _ _ read => by
      simp [pairs?] at read⟩
  | succ fuel ih =>
    obtain ⟨values, pairs⟩ := ih
    constructor
    · intro text value rest read
      rw [value?] at read
      obtain ⟨⟨inner, after⟩, part, same⟩ := Option.map_eq_some_iff.mp read
      obtain rfl : inner = value := (Prod.mk.inj same).1
      clear same read
      split at part
      · obtain ⟨_, _, same⟩ := Option.map_eq_some_iff.mp part
        exact (Prod.mk.inj same).1 ▸ trivial
      · obtain ⟨_, _, same⟩ := Option.map_eq_some_iff.mp part
        exact (Prod.mk.inj same).1 ▸ trivial
      · obtain ⟨⟨entries, left⟩, found, same⟩ := Option.map_eq_some_iff.mp part
        exact (Prod.mk.inj same).1 ▸ pairs [] _ entries left trivial found
      · cases part
        trivial
      · cases part
      · have plain := ordered_bare (skipSpace text)
        rwa [Option.some.inj part] at plain
    · intro entries text final rest ordered read
      unfold pairs? at read
      split at read
      · cases read
        exact ordered
      · split at read
        · cases read
        · split at read
          · split at read
            · next value _ found =>
              exact pairs _ _ final rest (ordered.put _ (values _ value _ found)) read
            · next value _ found =>
              cases read
              exact ordered.put _ (values _ value _ found)
            · cases read
          · cases read

theorem ordered_parse (text : String) : Ordered (parse text) := by
  unfold parse
  split
  · next value read => exact (ordered_read _).1 _ _ _ read
  · trivial

end Inline

theorem ordered_nestUnder {value : Value} (ordered : Ordered value) (keys : List String) :
    Ordered (nestUnder value keys) := by
  induction keys with
  | nil => exact ordered
  | cons key rest ih => exact ⟨by simp, ih, trivial⟩

theorem Environment.ordered_layer (stem : String) (environment : List (String × String)) :
    OrderedEntries (layer stem environment) := by
  have each (known : List (String × String)) (below : Table) (ordered : OrderedEntries below) :
      OrderedEntries (layerOf stem known below) := by
    fun_induction layerOf stem known below with
    | case1 => exact ordered
    | case2 name text rest below none ih => exact ih ordered
    | case3 name text rest below key some ih =>
      exact ih (OrderedEntries.overlay _
        (ordered_nestUnder (Inline.ordered_parse text) _).entriesOf ordered)
  exact each _ [] trivial

theorem File.ordered_layer {bytes : ByteArray} {entries : Table}
    (read : File.layer? bytes = some entries) : OrderedEntries entries := by
  obtain ⟨_, -, rfl⟩ := Option.map_eq_some_iff.mp read
  exact ordered_sorted _

/-! ## Layers that can be read -/

theorem Layers.add_ok {lower upper : Layers} {all : Table} (added : lower.add upper = .ok all) :
    ∃ below above, lower = .ok below ∧ upper = .ok above ∧ all = overlayEntries above below := by
  unfold Layers.add at added
  split at added
  · cases added
    exact ⟨_, _, rfl, rfl, rfl⟩
  all_goals cases added

theorem layerOf_ok {value : Value} {entries : Table} (read : layerOf value = .ok entries) :
    arranged value = .table entries := by
  unfold layerOf at read
  split at read
  · cases read
    rfl
  · cases read

/-- The layer that a setting of the program stands for. -/
def Override.value : Override → Value
  | .key path value => nest path value
  | .schema values => values.value

theorem Override.layer_eq (setting : Override) : setting.layer = layerOf setting.value := by
  cases setting <;> rfl

/-- One layer over those before it, where both are tables. -/
theorem Layered.overlayEntries {path : List String} {layers : List Value} {lower upper : Table}
    (before : Layered path layers (findUnder path (.table lower))) (below : OrderedEntries lower)
    (above : OrderedEntries upper) :
    Layered path (layers ++ [.table upper])
      (findUnder path (.table (Settings.overlayEntries upper lower))) :=
  Layered.overlay before below above

/-- Settings of the program form one layer, in which later ones lie over earlier ones. -/
theorem overrideLayer_ok {settings : List Override} {entries : Table}
    (read : overrideLayer settings = .ok entries) :
    OrderedEntries entries ∧ ∀ path, Layered path
      (.table [] :: settings.map (arranged ·.value)) (findUnder path (.table entries)) := by
  induction settings using List.reverseRecOn generalizing entries with
  | nil =>
    cases read
    exact ⟨trivial, fun path => .single path _⟩
  | append_singleton earlier last ih =>
    rw [overrideLayer, List.foldl_append] at read
    obtain ⟨below, above, first, second, rfl⟩ := Layers.add_ok read
    obtain ⟨ordered, layered⟩ := ih first
    rw [last.layer_eq] at second
    have same := layerOf_ok second
    have upper : OrderedEntries above := by
      have inside := ordered_arranged last.value
      rwa [same] at inside
    refine ⟨upper.overlay above ordered, fun path => ?_⟩
    rw [List.map_append, List.map_singleton, same]
    exact (layered path).overlayEntries ordered upper

/-! ## Setting up a loader -/

/-- What a program calls to set up a loader. -/
inductive Loader.Call where
  | search (folder : String)
  /-- Searches the current folder. -/
  | searchHere
  /-- Searches the framework's folder among the user's settings. -/
  | searchSettings
  | file (path : String)
  | readVariables (stem : String)
  | ignoreVariables
  | override (setting : Override)

namespace Loader

/-- The kinds of calls. -/
inductive Group where
  | search
  | file
  | environment
  | program
deriving DecidableEq

def Call.group : Call → Group
  | .search _ | .searchHere | .searchSettings => .search
  | .file _ => .file
  | .readVariables _ | .ignoreVariables => .environment
  | .override _ => .program

def Call.folder? (surroundings : Surroundings) : Call → Option String
  | .search folder => some folder
  | .searchHere => some surroundings.workingFolder
  | .searchSettings => some (Files.join surroundings.settingsFolder "chameleon")
  | _ => none

def Call.file? : Call → Option String
  | .file path => some path
  | _ => none

/-- How the names of the variables to read begin, or that none are read. -/
def Call.stem? : Call → Option (Option String)
  | .readVariables stem => some (some stem)
  | .ignoreVariables => some none
  | _ => none

def Call.setting? : Call → Option Override
  | .override setting => some setting
  | _ => none

/-- The loader after one more call. -/
def heed (surroundings : Surroundings) (loader : Loader) : Call → Loader
  | .search folder => loader.addSearchPath folder
  | .searchHere => loader.addSearchPath surroundings.workingFolder
  | .searchSettings => loader.addSearchPath (Files.join surroundings.settingsFolder "chameleon")
  | .file path => loader.useFile path
  | .readVariables stem => loader.readVariables stem
  | .ignoreVariables => loader.ignoreVariables
  | .override setting => loader.override setting

/-- The loader that calls set up. -/
def built (surroundings : Surroundings) (calls : List Call) : Loader :=
  calls.foldl (heed surroundings) .standard

/-- Calls of one kind are heeded whatever comes between them: folders and settings in
their order, and of the others the last one. -/
theorem built_eq (surroundings : Surroundings) (calls : List Call) :
    built surroundings calls =
      { overrides := calls.filterMap Call.setting?
        searchPaths := calls.filterMap (Call.folder? surroundings)
        file := (calls.filterMap Call.file?).getLast?
        variableStem := (calls.filterMap Call.stem?).getLast?.getD (some "CHAMELEON_") } := by
  induction calls using List.reverseRecOn with
  | nil => rfl
  | append_singleton earlier last ih =>
    rw [built, List.foldl_append, ← built, ih]
    cases last <;>
      simp [heed, addSearchPath, useFile, Loader.readVariables, Loader.ignoreVariables,
        Loader.override, Call.setting?, Call.folder?, Call.file?, Call.stem?]

/-- Each part of a loader is set by calls of one kind. -/
theorem Call.outside (surroundings : Surroundings) (call : Call) :
    (call.group ≠ .program → call.setting? = none) ∧
      (call.group ≠ .search → call.folder? surroundings = none) ∧
      (call.group ≠ .file → call.file? = none) ∧
      (call.group ≠ .environment → call.stem? = none) := by
  cases call <;> simp [group, setting?, folder?, file?, stem?]

theorem filterMap_eq_of_group {α : Type} {calls others : List Call} {group : Group}
    {part : Call → Option α} (outside : ∀ call, call.group ≠ group → part call = none)
    (same : others.filter (·.group = group) = calls.filter (·.group = group)) :
    others.filterMap part = calls.filterMap part := by
  have only (list : List Call) :
      list.filterMap part = (list.filter (·.group = group)).filterMap part := by
    rw [List.filterMap_filter]
    refine congrArg (list.filterMap ·) (funext fun call => ?_)
    by_cases inside : call.group = group
    · simp [inside]
    · simp [inside, outside call inside]
  rw [only others, same, ← only calls]

/-- Only the order within each kind of calls counts. -/
theorem built_eq_of_groups {surroundings : Surroundings} {calls others : List Call}
    (same : ∀ group, others.filter (·.group = group) = calls.filter (·.group = group)) :
    built surroundings others = built surroundings calls := by
  have settings := filterMap_eq_of_group
    (fun call => (call.outside surroundings).1) (same .program)
  have folders := filterMap_eq_of_group
    (fun call => (call.outside surroundings).2.1) (same .search)
  have files := filterMap_eq_of_group
    (fun call => (call.outside surroundings).2.2.1) (same .file)
  have stems := filterMap_eq_of_group
    (fun call => (call.outside surroundings).2.2.2) (same .environment)
  rw [built_eq, built_eq, settings, folders, files, stems]

/-- The folders that calls have searched, in the order they came, or the standard ones
where no call names any. -/
def searched (surroundings : Surroundings) (calls : List Call) : List String :=
  let given := calls.filterMap (Call.folder? surroundings)
  if given.isEmpty then standardPaths surroundings else given

/-- The environment as the calls have it read. -/
def environment (surroundings : Surroundings) (calls : List Call) : Table :=
  match (calls.filterMap Call.stem?).getLast? with
  | none => Environment.layer "CHAMELEON_" surroundings.environment
  | some (some stem) => Environment.layer stem surroundings.environment
  | some none => []

/-- What the file layer holds after some calls: that of the file named last, and where
none is named that of the first settings file along the searched folders. -/
def FileLayer (surroundings : Surroundings) (calls : List Call) (file : Table) : Prop :=
  match (calls.filterMap Call.file?).getLast? with
  | some path => surroundings.holds path = true ∧
    match surroundings.read? path with
    | some bytes => File.layer? bytes = some file
    | none => file = []
  | none =>
    match ((searched surroundings calls).map (Files.join · fileName)).find? surroundings.holds with
    | some path => ∃ bytes, surroundings.read? path = some bytes ∧ File.layer? bytes = some file
    | none => file = []

end Loader

/-! ## What can be loaded -/

theorem findFile?_eq (surroundings : Surroundings) (folders : List String) :
    findFile? surroundings folders =
      (folders.map (Files.join · fileName)).find? surroundings.holds := by
  induction folders with
  | nil => rfl
  | cons folder rest ih =>
    simp only [findFile?, List.map_cons, List.find?_cons, ih]
    cases surroundings.holds (Files.join folder fileName) <;> rfl

theorem fileLayer_ok {surroundings : Surroundings} {path : String} {file : Table}
    (read : fileLayer surroundings path = .ok file) :
    match surroundings.read? path with
    | some bytes => File.layer? bytes = some file
    | none => file = [] := by
  unfold fileLayer at read
  split at read
  · next missing =>
    rw [missing]
    cases read
    rfl
  · next bytes found =>
    rw [found]
    split at read
    · cases read
    · next entries spelled =>
      cases read
      exact spelled

theorem Loader.load_ok {loader : Loader} {surroundings : Surroundings} {records : List Log.Record}
    {loaded : Loaded} (done : loader.load surroundings = (records, .ok loaded)) :
    ∃ file, (loader.fileLayer surroundings).2 = .ok file ∧
      loader.layers surroundings file = .ok loaded.all ∧
      decodeSchema .settings (.table loaded.all) = .ok loaded.schema := by
  unfold load at done
  rcases found : loader.fileLayer surroundings with ⟨logged, failure | file⟩
  · rw [found] at done
    cases done
  · rw [found] at done
    refine ⟨file, rfl, ?_⟩
    dsimp only at done
    split at done
    · cases done
    · next one read =>
      cases done
      unfold Loaded.ofLayers at read
      split at read
      · cases read
      · next all united =>
        split at read
        · cases read
        · next schema decoded =>
          cases read
          exact ⟨united, decoded⟩

theorem Loader.layers_ok {loader : Loader} {surroundings : Surroundings} {file : Layers}
    {all : Table} (united : loader.layers surroundings file = .ok all) :
    ∃ known overrides, file = .ok known ∧ overrideLayer loader.overrides = .ok overrides ∧
      all = overlayEntries overrides (overlayEntries
        (loader.variableStem.elim [] (Environment.layer · surroundings.environment))
        (overlayEntries known (entriesOf Schema.default.value))) := by
  obtain ⟨_, overrides, lower, upper, rfl⟩ := Layers.add_ok united
  obtain ⟨_, _, lowest, same, rfl⟩ := Layers.add_ok lower
  obtain ⟨_, known, builtIn, given, rfl⟩ := Layers.add_ok lowest
  cases same
  cases builtIn
  exact ⟨known, overrides, given, upper, rfl⟩

namespace Loader
variable {surroundings : Surroundings} {calls : List Call}

theorem file_built :
    (built surroundings calls).file = (calls.filterMap Call.file?).getLast? := by
  rw [built_eq]

theorem paths_built :
    (built surroundings calls).paths surroundings = searched surroundings calls := by
  rw [built_eq]
  rfl

/-- The variables that the loader reads are those that the calls have read. -/
theorem environment_built :
    (built surroundings calls).variableStem.elim []
      (Environment.layer · surroundings.environment) = environment surroundings calls := by
  rw [built_eq, environment]
  rcases (calls.filterMap Call.stem?).getLast? with _ | _ | stem <;> rfl

/-- The calls lead to a file layer, if every settings file along the searched folders is
a file and no folder of that name. -/
theorem fileLayer_built {file : Table}
    (regular : ∀ folder ∈ searched surroundings calls,
      surroundings.holds (Files.join folder fileName) = true →
        (surroundings.read? (Files.join folder fileName)).isSome = true)
    (found : ((built surroundings calls).fileLayer surroundings).2 = .ok (.ok file)) :
    FileLayer surroundings calls file := by
  unfold Loader.fileLayer at found
  rw [file_built] at found
  unfold FileLayer
  cases named : (calls.filterMap Call.file?).getLast? with
  | some path =>
    simp only [named] at found ⊢
    split at found
    · cases found
    · next there =>
      dsimp only at found
      split at found
      · exact ⟨by simpa using there, fileLayer_ok (Except.ok.inj found)⟩
      · cases found
  | none =>
    simp only [named, paths_built, findFile?_eq] at found ⊢
    cases hit : ((searched surroundings calls).map (Files.join · fileName)).find?
      surroundings.holds with
    | none =>
      rw [hit] at found
      cases found
      rfl
    | some path =>
      rw [hit] at found
      obtain ⟨folder, listed, rfl⟩ := List.mem_map.mp (List.mem_of_find?_eq_some hit)
      obtain ⟨bytes, held⟩ :=
        Option.isSome_iff_exists.mp (regular folder listed (by simpa using List.find?_some hit))
      have spelled := fileLayer_ok (Except.ok.inj found)
      rw [held] at spelled
      exact ⟨bytes, held, spelled⟩

theorem FileLayer.ordered {file : Table} (holds : FileLayer surroundings calls file) :
    OrderedEntries file := by
  unfold FileLayer at holds
  split at holds
  · obtain ⟨-, holds⟩ := holds
    split at holds
    · exact File.ordered_layer holds
    · exact holds ▸ trivial
  · split at holds
    · obtain ⟨_, -, spelled⟩ := holds
      exact File.ordered_layer spelled
    · exact holds ▸ trivial

theorem ordered_environment (surroundings : Surroundings) (calls : List Call) :
    OrderedEntries (environment surroundings calls) := by
  unfold environment
  split
  · exact Environment.ordered_layer ..
  · exact Environment.ordered_layer ..
  · trivial

end Loader

/-! ## The settings of the framework -/

theorem lookup_overlayEntries_isSome {upper lower : Table} (above : OrderedEntries upper)
    (below : OrderedEntries lower) {key : String} (there : (lower.lookup key).isSome = true) :
    ((overlayEntries upper lower).lookup key).isSome = true := by
  rw [lookup_overlayEntries above below]
  split
  · exact there
  · rfl

/-- What the framework understands is what it reads from its two tables. -/
theorem decodeSchema_ok {all : Table} {schema : Schema}
    (decoded : decodeSchema .settings (.table all) = .ok schema) :
    (∀ value, all.lookup "logging" = some value →
      decodeLogging .settings value = .ok schema.logging) ∧
    ∀ value, all.lookup "framework" = some value →
      decodeFramework .settings value = .ok schema.framework := by
  unfold decodeSchema record at decoded
  obtain ⟨given, checked, decoded⟩ := bind_eq_ok_iff.mp decoded
  obtain ⟨-, -, same⟩ := bind_eq_ok_iff.mp checked
  obtain rfl := Except.ok.inj same
  obtain ⟨logging, first, decoded⟩ := bind_eq_ok_iff.mp decoded
  obtain ⟨framework, second, decoded⟩ := bind_eq_ok_iff.mp decoded
  obtain rfl := Except.ok.inj decoded
  constructor
  · intro value found
    simp only [Given.withDefault, found] at first
    exact within_eq_ok_iff.mp first
  · intro value found
    simp only [Given.withDefault, found] at second
    exact within_eq_ok_iff.mp second

/-! ## Settings that have been loaded -/

/-- The four layers of settings, the lowest one first. -/
def fourLayers (file environment overrides : Table) : List Value :=
  [Schema.default.value, .table file, .table environment, .table overrides]

/-- What is built in has its keys in order. -/
theorem ordered_builtIn : OrderedEntries (entriesOf Schema.default.value) :=
  ordered_sorted (entriesOf Schema.default.value)

section
variable {file environment overrides : Table} (first : OrderedEntries file)
  (second : OrderedEntries environment) (third : OrderedEntries overrides)
include first second third

theorem layered_four (path : List String) :
    Layered path (fourLayers file environment overrides)
      (findUnder path (.table (overlayEntries overrides (overlayEntries environment
        (overlayEntries file (entriesOf Schema.default.value)))))) := by
  have lowest : Layered path [Schema.default.value]
      (findUnder path (.table (entriesOf Schema.default.value))) := .single path _
  have filed := lowest.overlayEntries ordered_builtIn first
  have ordered := first.overlay file ordered_builtIn
  have surrounded := filed.overlayEntries ordered second
  exact surrounded.overlayEntries (second.overlay environment ordered) third

/-- No layer takes away a key that is built in. -/
theorem builtIn_stays {key : String}
    (there : ((entriesOf Schema.default.value).lookup key).isSome = true) :
    ((overlayEntries overrides (overlayEntries environment
      (overlayEntries file (entriesOf Schema.default.value)))).lookup key).isSome = true := by
  have ordered := first.overlay file ordered_builtIn
  have filed := lookup_overlayEntries_isSome first ordered_builtIn there
  have surrounded := lookup_overlayEntries_isSome second ordered filed
  exact lookup_overlayEntries_isSome third (second.overlay environment ordered) surrounded

end

theorem find?_of_single {key : String} (single : keysOf key = [key]) (entries : Table) :
    find? key entries = entries.lookup key := by
  rw [find?, single]
  simp only [findUnder]
  cases entries.lookup key <;> rfl

/-- What a reader makes of a section, if this value is found under its key. -/
def sectionFrom {α : Type} (decode : Value → Outcome α) : Option Value → Outcome (Option α)
  | none => .ok none
  | some value => (decode value).map some

/-- A loader heeds the calls of each kind in their order, however calls of different
kinds are mixed. What it then loads, if it can, is the union of four layers, of which
each lies over those before it: what is built in; the file named last, or else the
first settings file along the searched folders; the environment; and what the program
sets, where later settings lie over earlier ones. The framework's own settings are read
from this union. A section is what the layers come to under its key, and so the
framework's own sections tell what the framework understands. It is taken for granted
that the settings files along the searched folders are files. -/
theorem settings_are_layered (surroundings : Surroundings) (calls : List Loader.Call) :
    (∀ others : List Loader.Call,
      (∀ group, others.filter (·.group = group) = calls.filter (·.group = group)) →
      (Loader.built surroundings others).load surroundings =
        (Loader.built surroundings calls).load surroundings) ∧
    ((∀ folder ∈ Loader.searched surroundings calls,
      surroundings.holds (Files.join folder fileName) = true →
        (surroundings.read? (Files.join folder fileName)).isSome = true) →
      ∀ records loaded,
        (Loader.built surroundings calls).load surroundings = (records, .ok loaded) →
        ∃ file overrides, Loader.FileLayer surroundings calls file ∧
          (∀ path, Layered path
            (.table [] :: (calls.filterMap Loader.Call.setting?).map (arranged ·.value))
            (findUnder path (.table overrides))) ∧
          Layered [] (fourLayers file (Loader.environment surroundings calls) overrides)
            (some (.table loaded.all)) ∧
          decodeSchema .settings (.table loaded.all) = .ok loaded.schema ∧
          (∀ key, ∃ found,
            Layered (keysOf key)
              (fourLayers file (Loader.environment surroundings calls) overrides) found ∧
            ∀ (α : Type) (decode : Value → Outcome α),
              loaded.section? key decode = sectionFrom decode found) ∧
          loaded.section? "logging" (decodeLogging .settings) = .ok (some loaded.schema.logging) ∧
          loaded.section? "framework" (decodeFramework .settings) =
            .ok (some loaded.schema.framework)) := by
  refine ⟨fun others same => by rw [Loader.built_eq_of_groups same],
    fun regular records loaded done => ?_⟩
  obtain ⟨_, found, united, decoded⟩ := Loader.load_ok done
  obtain ⟨file, overrides, rfl, program, all⟩ := Loader.layers_ok united
  rw [Loader.environment_built] at all
  rw [Loader.built_eq] at program
  obtain ⟨above, stacked⟩ := overrideLayer_ok program
  have filed := Loader.fileLayer_built regular found
  have surrounded := Loader.ordered_environment surroundings calls
  have layered := layered_four filed.ordered surrounded above
  rw [← all] at layered
  obtain ⟨logging, framework⟩ := decodeSchema_ok decoded
  have own {α : Type} {key : String} {decode : Value → Outcome α} {part : α}
      (single : keysOf key = [key])
      (builtIn : ((entriesOf Schema.default.value).lookup key).isSome = true)
      (understood : ∀ value, loaded.all.lookup key = some value → decode value = .ok part) :
      loaded.section? key decode = .ok (some part) := by
    have there := builtIn_stays filed.ordered surrounded above builtIn
    rw [← all] at there
    obtain ⟨value, held⟩ := Option.isSome_iff_exists.mp there
    rw [Loaded.section?, find?_of_single single, held]
    exact congrArg (Except.map some) (understood value held)
  refine ⟨file, overrides, filed, stacked, layered [], decoded, fun key => ?_,
    own (by decide +kernel) rfl logging, own (by decide +kernel) rfl framework⟩
  refine ⟨find? key loaded.all, layered (keysOf key), fun α decode => ?_⟩
  unfold Loaded.section?
  cases find? key loaded.all <;> rfl

/-- A settings file that is found second, one variable, and settings of the program that
come before, between and after what is searched. -/
def tavern : Surroundings where
  files := ⟨[(["srv"], .folder), (["srv", "chameleon.toml"], .file (String.join
    ["[framework]\nlog_events = true\nconsole_name = \"Inn\"\n",
      "[plugins.greeter]\nmotd = \"Hi\"\n"]).toUTF8)], [], 0⟩
  environment := [("CHAMELEON_PLUGINS__GREETER__REPEAT", "2")]
  workingFolder := "/"
  settingsFolder := "/home/settings"

def tavernCalls : List Loader.Call :=
  [.override (.key "framework.console_name" (.text "Tavern")), .search "none",
    .override (.key "plugins.greeter.motd" (.text "Welcome")), .search "srv"]

def tavernSorted : List Loader.Call :=
  [.search "none", .search "srv", .override (.key "framework.console_name" (.text "Tavern")),
    .override (.key "plugins.greeter.motd" (.text "Welcome"))]

theorem tavern_settings_are_layered : ∃ records loaded file overrides,
    (Loader.built tavern tavernCalls).load tavern = (records, .ok loaded) ∧
      (Loader.built tavern tavernSorted).load tavern = (records, .ok loaded) ∧
      Loader.FileLayer tavern tavernCalls file ∧
      Layered [] (fourLayers file (Loader.environment tavern tavernCalls) overrides)
        (some (.table loaded.all)) := by
  obtain ⟨mixed, layered⟩ := settings_are_layered tavern tavernCalls
  have sorted := mixed tavernSorted fun group => by cases group <;> rfl
  have loads : ((Loader.built tavern tavernCalls).load tavern).2.toBool = true := by
    decide +kernel
  obtain ⟨records, loaded, done⟩ : ∃ records loaded,
      (Loader.built tavern tavernCalls).load tavern = (records, .ok loaded) := by
    rcases result : (Loader.built tavern tavernCalls).load tavern with ⟨records, _ | loaded⟩
    · rw [result] at loads
      cases loads
    · exact ⟨records, loaded, rfl⟩
  have regular : ∀ folder ∈ Loader.searched tavern tavernCalls,
      tavern.holds (Files.join folder fileName) = true →
        (tavern.read? (Files.join folder fileName)).isSome = true := by
    decide +kernel
  obtain ⟨file, overrides, filed, -, union, -⟩ := layered regular records loaded done
  exact ⟨records, loaded, file, overrides, done, sorted.trans done, filed, union⟩

end PluginBridge.Settings
