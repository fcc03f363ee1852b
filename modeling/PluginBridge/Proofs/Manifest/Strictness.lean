import Mathlib.Data.List.Forall2
import PluginBridge.Manifest.Sources

/-! How strictly a manifest file is read. The file and its plugin table refuse keys that they do
not know, so what they hold all ends up in what is read. The records of dependencies take any
key, and what is read of a file is what would be read without those that they do not know. -/
namespace PluginBridge

/-! ## Records -/

namespace Decode
variable {fields : List Field} {entries : List (String × Value)}

theorem checkEntries_known {key : String} {field : Field} {open_ : Bool}
    (found : fields.find? (·.name == key) = some field) (value : Value)
    (rest : List (String × Value)) :
    checkEntries fields open_ ((key, value) :: rest) =
      (within key (field.check value) >>= fun _ => checkEntries fields open_ rest) := by
  rw [checkEntries, found]

theorem checkEntries_unknown {key : String} (stray : fields.find? (·.name == key) = none)
    (open_ : Bool) (value : Value) (rest : List (String × Value)) :
    checkEntries fields open_ ((key, value) :: rest) =
      if open_ then checkEntries fields open_ rest else wrong .unknownField := by
  rw [checkEntries, stray]
  cases open_ <;> rfl

theorem find?_field_eq_none {key : String} :
    fields.find? (·.name == key) = none ↔ key ∉ fields.map (·.name) := by
  simp [List.find?_eq_none]

theorem mem_fields_of_find? {key : String} {field : Field}
    (found : fields.find? (·.name == key) = some field) : key ∈ fields.map (·.name) :=
  List.mem_map.mpr ⟨field, List.mem_of_find?_eq_some found, by simpa using List.find?_some found⟩

/-- A record that is not open has no other keys than its fields. -/
theorem known_of_checkEntries (checked : checkEntries fields false entries = .ok ()) :
    ∀ entry ∈ entries, entry.1 ∈ fields.map (·.name) := by
  induction entries with
  | nil => exact nofun
  | cons entry rest ih =>
    obtain ⟨key, value⟩ := entry
    cases found : fields.find? (·.name == key) with
    | none =>
      rw [checkEntries_unknown found] at checked
      cases checked
    | some field =>
      rw [checkEntries_known found] at checked
      obtain ⟨-, -, others⟩ := bind_eq_ok_iff.mp checked
      exact List.forall_mem_cons.mpr ⟨mem_fields_of_find? found, ih others⟩

/-- The entries of a table under some keys. -/
def only (names : List String) (entries : List (String × Value)) : List (String × Value) :=
  entries.filter (·.1 ∈ names)

/-- An open record is not looked at where it has a key that is none of its fields. -/
theorem checkEntries_only (entries : List (String × Value)) :
    checkEntries fields true (only (fields.map (·.name)) entries) =
      checkEntries fields true entries := by
  induction entries with
  | nil => rfl
  | cons entry rest ih =>
    obtain ⟨key, value⟩ := entry
    unfold only at ih ⊢
    cases found : fields.find? (·.name == key) with
    | none =>
      have stray := find?_field_eq_none.mp found
      rw [List.filter_cons_of_neg (by simpa using stray), checkEntries_unknown found, ih]
      rfl
    | some field =>
      have known := mem_fields_of_find? found
      rw [List.filter_cons_of_pos (by simpa using known), checkEntries_known found,
        checkEntries_known found, ih]

theorem lookup_only {names : List String} {name : String} (known : name ∈ names)
    (entries : List (String × Value)) :
    (only names entries).lookup name = entries.lookup name := by
  induction entries with
  | nil => rfl
  | cons entry rest ih =>
    obtain ⟨key, value⟩ := entry
    unfold only at ih ⊢
    by_cases same : name = key
    · subst same
      rw [List.filter_cons_of_pos (by simpa using known), List.lookup_cons_self,
        List.lookup_cons_self]
    · have apart : (name == key) = false := by simpa using same
      have past (entries : List (String × Value)) :
          ((key, value) :: entries).lookup name = entries.lookup name := by
        rw [List.lookup_cons, apart]
      by_cases kept : key ∈ names
      · rw [List.filter_cons_of_pos (by simpa using kept), past, past, ih]
      · rw [List.filter_cons_of_neg (by simpa using kept), past, ih]

def Given.only (names : List String) (given : Given) : Given :=
  { given with entries := Decode.only names given.entries }

/-- An open record is read as if it had no keys but its fields. -/
theorem record_only (source : Source) (entries : List (String × Value)) :
    record source fields true (.table (only (fields.map (·.name)) entries)) =
      (record source fields true (.table entries)).map (Given.only (fields.map (·.name))) := by
  simp only [record, checkEntries_only]
  cases checkEntries fields true entries <;> rfl

theorem required_only {α : Type} {names : List String} {name : String} (known : name ∈ names)
    (decode : Value → Outcome α) (given : Given) :
    (given.only names).required name decode = given.required name decode := by
  unfold Given.required Given.only
  rw [lookup_only known]

theorem withDefault_only {α : Type} {names : List String} {name : String} (known : name ∈ names)
    (decode : Value → Outcome α) (absent : α) (given : Given) :
    (given.only names).withDefault name decode absent = given.withDefault name decode absent := by
  unfold Given.withDefault Given.only
  rw [lookup_only known]

/-! ## Changed values -/

/-- The items of a record that is written as a list, each changed as its field says. -/
def mapItems (change : String → Value → Value) : List String → List Value → List Value
  | name :: names, item :: items => change name item :: mapItems change names items
  | _, items => items

/-- A record each of whose values is changed in a way that depends on its field. -/
def mapFields (change : String → Value → Value) (names : List String) : Value → Value
  | .table entries => .table (entries.map fun entry => (entry.1, change entry.1 entry.2))
  | .list items => .list (mapItems change names items)
  | value => value

def Given.mapValues (change : String → Value → Value) (given : Given) : Given :=
  { given with entries := given.entries.map fun entry => (entry.1, change entry.1 entry.2) }

section
variable {change : String → Value → Value}

theorem lookup_mapValues (name : String) (entries : List (String × Value)) :
    (entries.map fun entry => (entry.1, change entry.1 entry.2)).lookup name =
      (entries.lookup name).map (change name) := by
  induction entries with
  | nil => rfl
  | cons entry rest ih =>
    rw [List.map_cons, List.lookup_cons, List.lookup_cons, ih]
    by_cases same : name = entry.1
    · simp [same]
    · have apart : (name == entry.1) = false := by simpa using same
      rw [apart]

section
variable {source : Source} (checks : ∀ field ∈ fields, ∀ value,
  field.check (change field.name value) = field.check value)
include checks

theorem checkEntries_map (open_ : Bool) (entries : List (String × Value)) :
    checkEntries fields open_ (entries.map fun entry => (entry.1, change entry.1 entry.2)) =
      checkEntries fields open_ entries := by
  induction entries with
  | nil => rfl
  | cons entry rest ih =>
    obtain ⟨key, value⟩ := entry
    rw [List.map_cons]
    cases found : fields.find? (·.name == key) with
    | none => rw [checkEntries_unknown found, checkEntries_unknown found, ih]
    | some field =>
      have named : field.name = key := by simpa using List.find?_some found
      have same := checks field (List.mem_of_find?_eq_some found) value
      rw [named] at same
      rw [checkEntries_known found, checkEntries_known found, same, ih]

theorem checkItems_map (index : Nat) (items : List Value) :
    checkItems index fields (mapItems change (fields.map (·.name)) items) =
      checkItems index fields items := by
  induction fields generalizing index items with
  | nil => rfl
  | cons field rest ih =>
    obtain ⟨first, others⟩ := List.forall_mem_cons.mp checks
    cases items with
    | nil => rfl
    | cons item items =>
      rw [List.map_cons, mapItems, checkItems, checkItems, first, ih others]

end

theorem length_mapItems (names : List String) (items : List Value) :
    (mapItems change names items).length = items.length := by
  induction names generalizing items with
  | nil => rfl
  | cons name rest ih =>
    cases items with
    | nil => rfl
    | cons item items => rw [mapItems, List.length_cons, List.length_cons, ih]

theorem zip_mapItems (names : List String) (items : List Value) :
    names.zip (mapItems change names items) =
      (names.zip items).map fun entry => (entry.1, change entry.1 entry.2) := by
  induction names generalizing items with
  | nil => rfl
  | cons name rest ih =>
    cases items with
    | nil => rfl
    | cons item items => rw [mapItems, List.zip_cons_cons, List.zip_cons_cons, List.map_cons, ih]

theorem record_table_ok {source : Source} {open_ : Bool} {given : Given}
    (ok : record source fields open_ (.table entries) = .ok given) :
    checkEntries fields open_ entries = .ok () ∧ given = ⟨entries, false⟩ := by
  obtain ⟨done, checked, same⟩ := bind_eq_ok_iff.mp ok
  cases same
  exact ⟨checked, rfl⟩

/-- A record is read as before if its values are changed in ways that its fields do not see. -/
theorem record_mapFields {source : Source} (open_ : Bool) (checks : ∀ field ∈ fields, ∀ value,
    field.check (change field.name value) = field.check value) (value : Value) :
    record source fields open_ (mapFields change (fields.map (·.name)) value) =
      (record source fields open_ value).map (Given.mapValues change) := by
  cases value with
  | table entries =>
    simp only [mapFields, record, checkEntries_map checks]
    cases checkEntries fields open_ entries <;> rfl
  | list items =>
    simp only [mapFields, record, checkItems_map checks, length_mapItems, zip_mapItems]
    cases checkItems 0 fields items with
    | error mismatch => rfl
    | ok done =>
      by_cases long : (source == .message && decide (items.length > fields.length)) = true
      · simp only [long]; rfl
      · simp only [long]; rfl
  | _ => rfl

end

/-! ## Fields -/

/-- The value of one key changed. -/
def atKey (key : String) (change : Value → Value) (name : String) (value : Value) : Value :=
  if name = key then change value else value

section
variable {α : Type} (key : String) {change : Value → Value}

theorem atKey_self (value : Value) : atKey key change key value = change value := if_pos rfl

theorem atKey_of_ne {key name : String} (apart : name ≠ key) (value : Value) :
    atKey key change name value = value := if_neg apart

/-- Fields of which only one has the key do not see a change that its decoder does not see. -/
theorem check_atKey (fields : List Field) {decode : Value → Outcome α}
    (same : ∀ value, decode (change value) = decode value)
    (once : ∀ field ∈ fields, field.name = key → field = .of key decode) :
    ∀ field ∈ fields, ∀ value, field.check (atKey key change field.name value) =
      field.check value := by
  intro field member value
  by_cases named : field.name = key
  · rw [named, atKey_self, once field member named]
    simp only [Field.of, same]
  · rw [atKey_of_ne named]

theorem withDefault_atKey {decode : Value → Outcome α}
    (same : ∀ value, decode (change value) = decode value) (given : Given) (absent : α) :
    (given.mapValues (atKey key change)).withDefault key decode absent =
      given.withDefault key decode absent := by
  simp only [Given.withDefault, Given.mapValues, lookup_mapValues]
  cases given.entries.lookup key with
  | none => rfl
  | some value => simp only [Option.map_some, atKey_self, same]

theorem ifGiven_atKey {decode : Value → Outcome α}
    (same : ∀ value, decode (change value) = decode value) (given : Given) :
    (given.mapValues (atKey key change)).ifGiven key decode = given.ifGiven key decode := by
  simp only [Given.ifGiven, Given.mapValues, lookup_mapValues]
  cases given.entries.lookup key with
  | none => rfl
  | some value => simp only [Option.map_some, atKey_self, same]

theorem ifGiven_atKey_of_ne {key name : String} (apart : name ≠ key) (decode : Value → Outcome α)
    (given : Given) :
    (given.mapValues (atKey key change)).ifGiven name decode = given.ifGiven name decode := by
  simp only [Given.ifGiven, Given.mapValues, lookup_mapValues]
  cases given.entries.lookup name with
  | none => rfl
  | some value => simp only [Option.map_some, atKey_of_ne apart]

end

/-- What a field that may be left out is read as. -/
theorem ifGiven_ok {α : Type} {given : Given} {name : String} {decode : Value → Outcome α}
    {read : Option α} (ok : given.ifGiven name decode = .ok read) {value : Value}
    (there : given.entries.lookup name = some value) :
    ∃ known, decode value = .ok known ∧ read = some known := by
  rw [Given.ifGiven, there] at ok
  have decoded := within_eq_ok_iff.mp ok
  cases result : decode value with
  | error mismatch =>
    rw [result] at decoded
    cases decoded
  | ok known =>
    rw [result] at decoded
    cases decoded
    exact ⟨known, rfl, rfl⟩

theorem withDefault_ok {α : Type} {given : Given} {name : String} {decode : Value → Outcome α}
    {absent read : α} (ok : given.withDefault name decode absent = .ok read) :
    (given.entries.lookup name = none → read = absent) ∧
      ∀ value, given.entries.lookup name = some value → decode value = .ok read := by
  unfold Given.withDefault at ok
  cases there : given.entries.lookup name with
  | none =>
    rw [there] at ok
    cases ok
    exact ⟨fun _ => rfl, nofun⟩
  | some value =>
    rw [there] at ok
    refine ⟨nofun, fun other same => ?_⟩
    cases same
    exact within_eq_ok_iff.mp ok

theorem required_ok {α : Type} {given : Given} {name : String} {decode : Value → Outcome α}
    {read : α} (ok : given.required name decode = .ok read) {value : Value}
    (there : given.entries.lookup name = some value) : decode value = .ok read := by
  rw [Given.required, there] at ok
  exact within_eq_ok_iff.mp ok

theorem listFrom_ok {α : Type} {decode : Value → Outcome α} {index : Nat} {items : List Value}
    {read : List α} (ok : listFrom decode index items = .ok read) :
    List.Forall₂ (fun item known => decode item = .ok known) items read := by
  induction items generalizing index read with
  | nil =>
    cases ok
    exact .nil
  | cons item rest ih =>
    obtain ⟨known, first, more⟩ := bind_eq_ok_iff.mp ok
    obtain ⟨others, remaining, same⟩ := bind_eq_ok_iff.mp more
    cases same
    exact .cons (within_eq_ok_iff.mp first) (ih remaining)

theorem list_ok {α : Type} {decode : Value → Outcome α} {value : Value} {read : List α}
    (ok : list decode value = .ok read) : ∃ items, value = .list items ∧
      List.Forall₂ (fun item known => decode item = .ok known) items read := by
  cases value with
  | list items => exact ⟨items, rfl, listFrom_ok ok⟩
  | _ => cases ok

/-- Each item of a list changed. -/
def mapList (change : Value → Value) : Value → Value
  | .list items => .list (items.map change)
  | value => value

theorem list_mapList {α : Type} {decode : Value → Outcome α} {change : Value → Value}
    (same : ∀ value, decode (change value) = decode value) (value : Value) :
    list decode (mapList change value) = list decode value := by
  have each (items : List Value) (index : Nat) :
      listFrom decode index (items.map change) = listFrom decode index items := by
    induction items generalizing index with
    | nil => rfl
    | cons item rest ih => rw [List.map_cons, listFrom, listFrom, same, ih]
  cases value with
  | list items => exact each items 0
  | _ => rfl

end Decode

/-! ## Manifest files -/

namespace Manifest
open Decode

/-- The keys of a manifest file. -/
def fileKeys : List String := ["plugin"]

/-- The keys of the plugin's table. -/
def pluginKeys : List String :=
  ["id", "name", "version", "authors", "url", "description", "main", "dependencies", "platforms"]

/-- The keys of the record of a dependency. -/
def dependencyKeys : List String := ["name", "soft", "platforms"]

/-- The record of a dependency without the keys that it does not know. -/
def weedDependency : Value → Value
  | .table entries => .table (only dependencyKeys entries)
  | value => value

/-- A plugin's table without the keys that the records of its dependencies do not know. -/
def weedPlugin : Value → Value :=
  mapFields (atKey "dependencies" (mapList weedDependency)) pluginKeys

/-- A manifest file without the keys that the records of dependencies do not know. -/
def weeded (document : List (String × Value)) : List (String × Value) :=
  document.map fun entry => (entry.1, atKey "plugin" weedPlugin entry.1 entry.2)

def dependencyFields (source : Source) : List Field :=
  [.of "name" text, .of "soft" flag, .of "platforms" (list (decodePlatform source))]

def pluginFields : List Field :=
  [.of "id" text, .of "name" text, .of "version" text, .of "authors" (list text),
    .of "url" text, .of "description" text, .of "main" text,
    .of "dependencies" (list (decodeDependency .manifest)),
    .of "platforms" (list (decodePlatform .manifest))]

theorem decodeDependency_weed (source : Source) (value : Value) :
    decodeDependency source (weedDependency value) = decodeDependency source value := by
  cases value with
  | table entries =>
    have weeded : record source (dependencyFields source) true
        (.table (only dependencyKeys entries)) =
          (record source (dependencyFields source) true (.table entries)).map
            (Given.only dependencyKeys) := record_only source entries
    unfold dependencyFields at weeded
    simp only [decodeDependency, weedDependency, weeded]
    cases record source _ true (.table entries) with
    | error mismatch => rfl
    | ok given =>
      have name := required_only (show "name" ∈ dependencyKeys by decide) text given
      have soft := withDefault_only (show "soft" ∈ dependencyKeys by decide) flag false given
      have platforms := withDefault_only (show "platforms" ∈ dependencyKeys by decide)
        (list (decodePlatform source)) [] given
      simp only [Except.map, bind, Except.bind, name, soft, platforms]
  | _ => rfl

theorem decodePartial_weed (value : Value) :
    decodePartial (weedPlugin value) = decodePartial value := by
  have dependencies := list_mapList (decodeDependency_weed .manifest)
  have checks := check_atKey "dependencies" pluginFields dependencies
    (by simp [pluginFields, Field.of])
  have recorded : record .manifest pluginFields false (weedPlugin value) =
      (record .manifest pluginFields false value).map
        (Given.mapValues (atKey "dependencies" (mapList weedDependency))) :=
    record_mapFields false checks value
  unfold pluginFields at recorded
  simp only [decodePartial, recorded]
  cases record .manifest _ false value with
  | error mismatch => rfl
  | ok given =>
    have same := ifGiven_atKey "dependencies" dependencies given
    simp (disch := decide) only [Except.map, bind, Except.bind, same, ifGiven_atKey_of_ne]

theorem decodeFile_weeded (document : List (String × Value)) :
    decodeFile (.table (weeded document)) = decodeFile (.table document) := by
  have checks := check_atKey "plugin" [.of "plugin" decodePartial] decodePartial_weed
    (by simp [Field.of])
  have recorded : record .manifest [.of "plugin" decodePartial] false (.table (weeded document)) =
      (record .manifest [.of "plugin" decodePartial] false (.table document)).map
        (Given.mapValues (atKey "plugin" weedPlugin)) :=
    record_mapFields false checks (.table document)
  simp only [decodeFile, recorded]
  cases record .manifest _ false (.table document) with
  | error mismatch => rfl
  | ok given =>
    have same := withDefault_atKey "plugin" decodePartial_weed given
    simp only [Except.map, bind, Except.bind, same]

/-! ## What has been read -/

/-- The value of a key that may be left out is what has been read for it. -/
def Reads {α : Type} (decode : Value → Outcome α) (read : Option α) (value : Value) : Prop :=
  ∃ known, decode value = .ok known ∧ read = some known

/-- What is given under each of some keys is what has been read for it. -/
def AllRead (readings : List (String × (Value → Prop))) (entries : List (String × Value)) : Prop :=
  ∀ reading ∈ readings, ∀ value, entries.lookup reading.1 = some value → reading.2 value

/-- What has been read of a plugin for the keys of its table. -/
def Partial.readings (read : Partial) : List (String × (Value → Prop)) :=
  [("id", Reads text read.id), ("name", Reads text read.name),
    ("version", Reads text read.version), ("authors", Reads (list text) read.authors),
    ("url", Reads text read.url), ("description", Reads text read.description),
    ("main", Reads text read.main),
    ("dependencies", Reads (list (decodeDependency .manifest)) read.dependencies),
    ("platforms", Reads (list (decodePlatform .manifest)) read.platforms)]

/-- What has been read of a dependency for the keys of its record. -/
def Dependency.readings (read : Dependency) : List (String × (Value → Prop)) :=
  [("name", fun value => text value = .ok read.name),
    ("soft", fun value => flag value = .ok read.soft),
    ("platforms", fun value => list (decodePlatform .manifest) value = .ok read.platforms)]

theorem allRead_of_decodePartial {entries : List (String × Value)} {read : Partial}
    (ok : decodePartial (.table entries) = .ok read) :
    (∀ entry ∈ entries, entry.1 ∈ pluginKeys) ∧ AllRead read.readings entries := by
  obtain ⟨given, recorded, more⟩ := bind_eq_ok_iff.mp ok
  obtain ⟨checked, rfl⟩ := record_table_ok recorded
  refine ⟨known_of_checkEntries checked, ?_⟩
  obtain ⟨id, one, more⟩ := bind_eq_ok_iff.mp more
  obtain ⟨name, two, more⟩ := bind_eq_ok_iff.mp more
  obtain ⟨version, three, more⟩ := bind_eq_ok_iff.mp more
  obtain ⟨authors, four, more⟩ := bind_eq_ok_iff.mp more
  obtain ⟨url, five, more⟩ := bind_eq_ok_iff.mp more
  obtain ⟨description, six, more⟩ := bind_eq_ok_iff.mp more
  obtain ⟨main, seven, more⟩ := bind_eq_ok_iff.mp more
  obtain ⟨dependencies, eight, more⟩ := bind_eq_ok_iff.mp more
  obtain ⟨platforms, nine, same⟩ := bind_eq_ok_iff.mp more
  cases same
  simp only [AllRead, Partial.readings, List.forall_mem_cons, List.not_mem_nil]
  exact ⟨fun _ => ifGiven_ok one, fun _ => ifGiven_ok two, fun _ => ifGiven_ok three,
    fun _ => ifGiven_ok four, fun _ => ifGiven_ok five, fun _ => ifGiven_ok six,
    fun _ => ifGiven_ok seven, fun _ => ifGiven_ok eight, fun _ => ifGiven_ok nine, nofun⟩

/-- What has been read of a plugin is what its table gives, with all its keys, and what has been
read of its dependencies is what their records give under the keys that they know. -/
structure Partial.ReadFrom (read : Partial) (entries : List (String × Value)) : Prop where
  known : ∀ entry ∈ entries, entry.1 ∈ pluginKeys
  plugin : AllRead read.readings entries
  dependencies : ∀ items, entries.lookup "dependencies" = some (.list items) →
    ∃ dependencies, read.dependencies = some dependencies ∧
      List.Forall₂ (fun item dependency => ∀ record, item = .table record →
        AllRead dependency.readings record ∧
          (record.lookup "soft" = none → dependency.soft = false)) items dependencies

theorem allRead_of_decodeDependency {entries : List (String × Value)} {read : Dependency}
    (ok : decodeDependency .manifest (.table entries) = .ok read) :
    AllRead read.readings entries ∧ (entries.lookup "soft" = none → read.soft = false) := by
  obtain ⟨given, recorded, more⟩ := bind_eq_ok_iff.mp ok
  obtain ⟨-, rfl⟩ := record_table_ok recorded
  obtain ⟨name, one, more⟩ := bind_eq_ok_iff.mp more
  obtain ⟨soft, two, more⟩ := bind_eq_ok_iff.mp more
  obtain ⟨platforms, three, same⟩ := bind_eq_ok_iff.mp more
  cases same
  refine ⟨?_, (withDefault_ok two).1⟩
  simp only [AllRead, Dependency.readings, List.forall_mem_cons, List.not_mem_nil]
  exact ⟨fun _ => required_ok one, (withDefault_ok two).2, (withDefault_ok three).2, nofun⟩

theorem readFrom_of_decodePartial {entries : List (String × Value)} {read : Partial}
    (ok : decodePartial (.table entries) = .ok read) : read.ReadFrom entries := by
  obtain ⟨known, plugin⟩ := allRead_of_decodePartial ok
  refine ⟨known, plugin, fun items given => ?_⟩
  have among : ("dependencies", Reads (list (decodeDependency .manifest)) read.dependencies) ∈
      read.readings := by simp [Partial.readings]
  obtain ⟨dependencies, listed, same⟩ := plugin _ among _ given
  refine ⟨dependencies, same, ?_⟩
  obtain ⟨others, whole, each⟩ := list_ok listed
  cases whole
  refine each.imp fun item dependency decoded record table => ?_
  subst table
  exact allRead_of_decodeDependency decoded

/-- A file that is accepted holds at most the plugin. -/
theorem readFrom_of_decodeFile {document : List (String × Value)} {read : Partial}
    (ok : decodeFile (.table document) = .ok read) :
    (∀ entry ∈ document, entry.1 ∈ fileKeys) ∧
      (document.lookup "plugin" = none → read = .empty) ∧
      ∀ entries, document.lookup "plugin" = some (.table entries) → read.ReadFrom entries := by
  obtain ⟨given, recorded, more⟩ := bind_eq_ok_iff.mp ok
  obtain ⟨checked, rfl⟩ := record_table_ok recorded
  obtain ⟨absent, there⟩ := withDefault_ok more
  exact ⟨known_of_checkEntries checked, absent,
    fun entries table => readFrom_of_decodePartial (there _ table)⟩

theorem parseFile_ok {text path : String} {document : List (String × Value)}
    (read : Toml.parse? text = some document) {file : Partial} :
    parseFile text path = .ok file ↔ decodeFile (.table document) = .ok file := by
  rw [parseFile, read]
  dsimp only
  cases decodeFile (.table document) with
  | error mismatch => exact ⟨nofun, nofun⟩
  | ok known =>
    constructor <;>
    · intro same
      cases same
      rfl

/-- A file is read, or it is malformed: nothing else can be wrong with its text. -/
theorem parseFile_error {text path : String} (none : ∀ file, parseFile text path ≠ .ok file) :
    parseFile text path = .error (.malformed path) := by
  unfold parseFile at none ⊢
  cases read : Toml.parse? text with
  | none => rfl
  | some document =>
    rw [read] at none
    dsimp only at none ⊢
    cases decoded : decodeFile (.table document) with
    | error mismatch => rfl
    | ok file =>
      rw [decoded] at none
      exact absurd rfl (none file)

/-- The text of a manifest file that is a document. If the file or its plugin's table has a key
that is none of theirs, the file is malformed. If the file is accepted, each key of these tables
is one of theirs, and what is given under it is what has been read for it; the same goes for the
records of dependencies as far as they know their keys. Other keys of those records are passed
over: any file that differs from this one in nothing else is read just as this one is. -/
theorem strays_are_refused_but_in_dependencies {text : String}
    {document : List (String × Value)} (read : Toml.parse? text = some document) (path : String) :
    ((∃ entry ∈ document, entry.1 ∉ fileKeys) ∨
      (∃ entries, document.lookup "plugin" = some (.table entries) ∧
        ∃ entry ∈ entries, entry.1 ∉ pluginKeys) →
      parseFile text path = .error (.malformed path)) ∧
    (∀ file, parseFile text path = .ok file →
      (∀ entry ∈ document, entry.1 ∈ fileKeys) ∧
      (document.lookup "plugin" = none → file = .empty) ∧
      ∀ entries, document.lookup "plugin" = some (.table entries) → file.ReadFrom entries) ∧
    ∀ other same, Toml.parse? other = some same → weeded same = weeded document →
      parseFile other path = parseFile text path := by
  refine ⟨fun strays => parseFile_error fun file ok => ?_,
    fun file ok => readFrom_of_decodeFile ((parseFile_ok read).mp ok),
    fun other same found alike => ?_⟩
  · obtain ⟨known, -, plugin⟩ := readFrom_of_decodeFile ((parseFile_ok read).mp ok)
    obtain ⟨entry, member, stray⟩ | ⟨entries, table, entry, member, stray⟩ := strays
    · exact stray (known entry member)
    · exact stray ((plugin entries table).known entry member)
  · rw [parseFile, parseFile, read, found]
    dsimp only
    rw [← decodeFile_weeded same, alike, decodeFile_weeded]

/-- A manifest file with one dependency, which may be meant to be soft. -/
def greeterFile : String :=
  "[plugin]\nmain = \"core::Greeter\"\n\n[[plugin.dependencies]]\nname = \"LuckPerms\"\n"

def softGreeterFile : String :=
  "[plugin]\nmain = \"core::Greeter\"\n\n" ++
    "[[plugin.dependencies]]\nname = \"LuckPerms\"\nsotf = true\n"

def greeterDocument (more : List (String × Value)) : List (String × Value) :=
  [("plugin", .table [("main", .text "core::Greeter"),
    ("dependencies", .list [.table (("name", .text "LuckPerms") :: more)])])]

theorem parse_softGreeterFile :
    Toml.parse? softGreeterFile = some (greeterDocument [("sotf", .flag true)]) := by
  decide +kernel

/-- A misspelt key of a dependency makes no difference. -/
theorem misspelt_key_is_passed_over :
    Toml.parse? softGreeterFile = some (greeterDocument [("sotf", .flag true)]) ∧
      parseFile greeterFile fileName = parseFile softGreeterFile fileName := by
  have plain : Toml.parse? greeterFile = some (greeterDocument []) := by
    decide +kernel
  obtain ⟨-, -, alike⟩ := strays_are_refused_but_in_dependencies parse_softGreeterFile fileName
  exact ⟨parse_softGreeterFile, alike greeterFile _ plain rfl⟩

/-- The record of a dependency has a key that is none of its keys, and yet the file is accepted:
the dependency that was meant to be soft is not. -/
theorem misspelt_key_is_accepted :
    Toml.parse? softGreeterFile = some (greeterDocument [("sotf", .flag true)]) ∧
      "sotf" ∉ dependencyKeys ∧
      (parseFile softGreeterFile fileName).toOption = some { Partial.empty with
        main := some "core::Greeter", dependencies := some [⟨"LuckPerms", false, []⟩] } :=
  ⟨parse_softGreeterFile, by decide, by decide +kernel⟩

end Manifest
end PluginBridge
