import Mathlib.Data.List.Perm.Basic
import PluginBridge.Build.Script
import PluginBridge.Proofs.Document.Json
import PluginBridge.Proofs.Document.Yaml
import PluginBridge.Proofs.EntryPoint.Scanning

/-! What is generated for a plugin agrees. Its entry point and its descriptor name the
same dependencies in the same roles, the same name and version, and the same type. Both are
read off the generated texts, one by a scanner and one by the reader of its format. -/
namespace PluginBridge
open Manifest

/-! ## Dependencies of a platform -/

/-- The dependencies declared for a platform, or for all of them. -/
def declaredFor (metadata : Metadata) (platform : Platform) : List Dependency :=
  metadata.dependencies.filter fun dependency =>
    dependency.platforms = [] ∨ platform ∈ dependency.platforms

/-- The names among dependencies that are soft, or that are hard. -/
def namesOf (soft : Bool) (declared : List Dependency) : List String :=
  (declared.filter (·.soft = soft)).map (·.name)

/-- Dependencies with their roles: the hard ones, then the soft ones. -/
def hardThenSoft (declared : List Dependency) : List (String × Bool) :=
  (namesOf false declared).map (·, false) ++ (namesOf true declared).map (·, true)

theorem dependenciesOn_eq (metadata : Metadata) (platform : Platform) :
    metadata.dependenciesOn platform = declaredFor metadata platform := by
  refine List.filter_congr fun dependency _ => ?_
  rw [Bool.eq_iff_iff]
  simp [Dependency.appliesTo]

theorem hardNames_eq (metadata : Metadata) (platform : Platform) :
    metadata.hardNames platform = namesOf false (declaredFor metadata platform) := by
  simp [Metadata.hardNames, namesOf, dependenciesOn_eq]

theorem softNames_eq (metadata : Metadata) (platform : Platform) :
    metadata.softNames platform = namesOf true (declaredFor metadata platform) := by
  simp [Metadata.softNames, namesOf, dependenciesOn_eq]

/-- Sorting dependencies by their roles loses none of them, doubles none and changes the
role of none. -/
theorem hardThenSoft_perm (declared : List Dependency) :
    (hardThenSoft declared).Perm (declared.map fun dependency =>
      (dependency.name, dependency.soft)) := by
  have roles (soft : Bool) : (namesOf soft declared).map (·, soft) =
      (declared.filter (·.soft = soft)).map fun dependency =>
        (dependency.name, dependency.soft) := by
    rw [namesOf, List.map_map]
    refine List.map_congr_left fun dependency member => ?_
    have role := of_decide_eq_true (List.mem_filter.mp member).2
    simp [role]
  rw [hardThenSoft, roles, roles, ← List.map_append]
  have parted := List.filter_append_perm (fun dependency : Dependency => !dependency.soft) declared
  simpa using parted.map fun dependency => (dependency.name, dependency.soft)

/-! ## Descriptors -/

namespace Descriptor
open Document

def fieldNames : Document → List String
  | .fields entries => entries.map Prod.fst
  | _ => []

/-- The part of a descriptor that speaks of the plugin. One host keeps it in a list. -/
def plugin? (descriptor : Document) : Platform → Option Document
  | .sponge =>
    match descriptor.field? "plugins" with
    | some (.list [plugin]) => some plugin
    | _ => none
  | _ => some descriptor

/-- The field that refers to the entry point. -/
def mainField : Platform → String
  | .sponge | .minestom => "entrypoint"
  | _ => "main"

/-- The plugin that an item of a dependency list names, and whether it is optional. -/
def entry? (item : Document) : Option (String × Bool) :=
  match item.field? "id", item.field? "optional" with
  | some (.text id), some (.flag soft) => some (id, soft)
  | _, _ => none

/-- The dependency list holds exactly these plugins. -/
def ListsEntries (plugin : Document) (entries : List (String × Bool)) : Prop :=
  ∃ items, plugin.field? "dependencies" = some (.list items) ∧ items.map entry? = entries.map some

/-- How the dependencies of a platform are listed for its host: in two lists of names, in
one list of names with the hard ones first and all in small letters, as declared, or
without the soft ones. -/
def Lists (plugin : Document) (declared : List Dependency) : Platform → Prop
  | .bukkit | .nukkit => plugin.field? "depend" = some (texts (namesOf false declared)) ∧
      plugin.field? "softdepend" = some (texts (namesOf true declared))
  | .bungeeCord => plugin.field? "depends" = some (texts (namesOf false declared)) ∧
      plugin.field? "softDepends" = some (texts (namesOf true declared))
  | .velocity | .sponge => ListsEntries plugin
      ((hardThenSoft declared).map (Prod.map Text.LetterCase.toSmall id))
  | .memory => ListsEntries plugin
      (declared.map fun dependency => (dependency.name, dependency.soft))
  | .minestom => plugin.field? "dependencies" = some (texts (namesOf false declared))

theorem byPlainId_entries (entry : String → Bool → Document)
    (reads : ∀ name soft, entry? (entry name soft) = some (name, soft)) (metadata : Metadata)
    (platform : Platform) : ∃ items, byPlainId entry metadata platform = .list items ∧
      items.map entry? = ((hardThenSoft (declaredFor metadata platform)).map
        (Prod.map Text.LetterCase.toSmall id)).map some := by
  refine ⟨_, rfl, ?_⟩
  simp [hardNames_eq, softNames_eq, hardThenSoft, reads, Function.comp_def]

/-- A descriptor as its host reads it. -/
theorem document_reads (metadata : Metadata) (platform : Platform) :
    ∃ plugin, plugin? (document metadata platform) platform = some plugin ∧
      plugin.field? "name" = some (.text metadata.displayName) ∧
      plugin.field? "version" = some (.text metadata.version) ∧
      plugin.field? (mainField platform) = some (.text (metadata.entryReference platform)) ∧
      Lists plugin (declaredFor metadata platform) platform := by
  cases platform with
  | bukkit =>
    refine ⟨_, rfl, ?_⟩
    simp only [Lists, ← hardNames_eq, ← softNames_eq]
    cases url : metadata.url <;> cases description : metadata.description <;>
      simp [document, bukkit, field?, optionalEntry, mainField, List.lookup_cons, url]
  | bungeeCord =>
    refine ⟨_, rfl, ?_⟩
    simp [Lists, ← hardNames_eq, ← softNames_eq, document, bungeeCord, field?, mainField,
      List.lookup_cons]
  | nukkit =>
    refine ⟨_, rfl, ?_⟩
    simp only [Lists, ← hardNames_eq, ← softNames_eq]
    cases url : metadata.url <;> cases description : metadata.description <;>
      simp [document, nukkit, field?, optionalEntry, mainField, List.lookup_cons, url]
  | velocity =>
    obtain ⟨items, listed, read⟩ :=
      byPlainId_entries dependencyEntry (fun _ _ => rfl) metadata .velocity
    refine ⟨_, rfl, ?_, ?_, ?_, items, ?_, read⟩ <;>
    cases url : metadata.url <;> cases description : metadata.description <;>
      simp [document, velocity, field?, optionalEntry, mainField, List.lookup_cons, url,
        description, listed]
  | sponge =>
    obtain ⟨items, listed, read⟩ :=
      byPlainId_entries spongeDependency (fun _ _ => rfl) metadata .sponge
    refine ⟨_, rfl, ?_, ?_, ?_, items, ?_, read⟩ <;>
    cases url : metadata.url <;> cases description : metadata.description <;>
      simp [field?, optionalEntry, mainField, List.lookup_cons, listed]
  | minestom =>
    refine ⟨_, rfl, ?_⟩
    simp [Lists, ← hardNames_eq, document, minestom, field?, mainField, List.lookup_cons]
  | memory =>
    refine ⟨_, rfl, by simp [document, memory, field?, List.lookup_cons],
      by simp [document, memory, field?, List.lookup_cons],
      by simp [document, memory, field?, mainField, List.lookup_cons], _, rfl, ?_⟩
    simp [dependenciesOn_eq, entry?, dependencyEntry, field?, List.lookup_cons]

/-- No field of a descriptor comes twice, so that it does not matter which one a host takes. -/
theorem fields_come_once (metadata : Metadata) {platform : Platform} {plugin : Document}
    (held : plugin? (document metadata platform) platform = some plugin) :
    (fieldNames plugin).Nodup := by
  cases platform <;> cases held <;> cases url : metadata.url <;>
    cases description : metadata.description <;>
    simp [fieldNames, document, bukkit, bungeeCord, nukkit, velocity, minestom, memory,
      optionalEntry, url, description]

/-- A descriptor, read in the format of its host. -/
def read? (platform : Platform) (text : String) : Option Document :=
  match platform.format with
  | .yaml => Yaml.read? text
  | .json => Json.read? text

theorem areFields_optionalEntry (name : String) (key : Yaml.isKey name = true)
    (value : Option String) : ∀ entry ∈ optionalEntry name value, Yaml.IsField entry := by
  intro entry member
  obtain ⟨text, -, rfl⟩ := List.mem_map.mp member
  exact ⟨key, .text text⟩

/-- Every descriptor is read back from its text. -/
theorem read?_render (metadata : Metadata) (platform : Platform) :
    read? platform (render metadata platform) = some (document metadata platform) := by
  have yaml (format : platform.format = .yaml) : read? platform (render metadata platform) =
      Yaml.read? (Yaml.file (document metadata platform)) := by
    rw [read?, render, format]
  have json (format : platform.format = .json) : read? platform (render metadata platform) =
      Json.read? (Json.file (document metadata platform)) := by
    rw [read?, render, format]
  have keys : Yaml.isKey "name" = true ∧ Yaml.isKey "main" = true ∧ Yaml.isKey "version" = true ∧
      Yaml.isKey "author" = true ∧ Yaml.isKey "authors" = true ∧ Yaml.isKey "website" = true ∧
      Yaml.isKey "description" = true ∧ Yaml.isKey "api" = true ∧
      Yaml.isKey "api-version" = true ∧ Yaml.isKey "depend" = true ∧
      Yaml.isKey "softdepend" = true ∧ Yaml.isKey "depends" = true ∧
      Yaml.isKey "softDepends" = true := by
    decide +kernel
  have website := areFields_optionalEntry "website" (by simp only [keys]) metadata.url
  have description := areFields_optionalEntry "description" (by simp only [keys]) metadata.description
  cases platform with
  | bukkit =>
    rw [yaml rfl, document, bukkit]
    refine Yaml.read?_file (by simp) ?_
    simp only [List.forall_mem_append, List.forall_mem_cons, Yaml.isField_text, Yaml.isField_texts,
      keys, true_and]
    exact ⟨⟨⟨List.forall_mem_nil _, website⟩, List.forall_mem_nil _⟩, description⟩
  | bungeeCord =>
    rw [yaml rfl, document, bungeeCord]
    refine Yaml.read?_file (by simp) ?_
    simp only [List.forall_mem_append, List.forall_mem_cons, Yaml.isField_text, Yaml.isField_texts,
      keys, true_and]
    exact ⟨List.forall_mem_nil _, description⟩
  | nukkit =>
    rw [yaml rfl, document, nukkit]
    refine Yaml.read?_file (by simp) ?_
    simp only [List.forall_mem_append, List.forall_mem_cons, Yaml.isField_text, Yaml.isField_texts,
      keys, true_and]
    exact ⟨⟨⟨List.forall_mem_nil _, website⟩, List.forall_mem_nil _⟩, description⟩
  | velocity | sponge | minestom | memory =>
    rw [json rfl]
    exact Json.read?_file _

end Descriptor

/-! ## Entry points -/

namespace EntryPoint

/-- An entry point as it is read back: one data literal, one literal for each dependency
of it, and one type. -/
theorem entryPoint_reads {metadata : Metadata} {platform : Platform} {tokens : List Token}
    (printed : tokens? metadata platform = some tokens) :
    (literals "PluginData" [] tokens).map readData? = [some (data metadata platform)] ∧
      (literals "PluginDependency" [] tokens).map readRequirement? =
        (data metadata platform).dependencies.map some ∧
      declaredTypes tokens = [metadata.entryType platform] ∧
      Reference.isIdentifier (metadata.entryType platform) = true := by
  obtain ⟨identifier, -, adapter, words, spelled, rfl⟩ := tokens?_eq_some printed
  have found (type : String) :=
    finds_program type (metadata.entryType platform) spelled words (data metadata platform) []
  refine ⟨?_, ?_, declaredTypes_program .., identifier⟩
  · rw [found]
    simp [readData?_dataFields]
  · rw [found]
    simp [← List.map_eq_flatMap, readRequirement?_requirementFields]

end EntryPoint

/-! ## References -/

namespace Manifest.Reference

theorem beforeFirst_cons {c : Char} (differs : c ≠ ':') (rest : List Char) :
    beforeFirst (c :: rest) = c :: beforeFirst rest :=
  beforeFirst.eq_2 c rest fun _ same _ => differs same

theorem beforeFirst_plain {text : List Char} (plain : ':' ∉ text) : beforeFirst text = text := by
  induction text with
  | nil => rfl
  | cons c rest ih =>
    obtain ⟨differs, others⟩ := not_or.mp (mt List.mem_cons.mpr plain)
    rw [beforeFirst_cons (Ne.symm differs), ih others]

theorem beforeFirst_append {front : List Char} (plain : ':' ∉ front) (rest : List Char) :
    beforeFirst (front ++ ':' :: ':' :: rest) = front := by
  induction front with
  | nil => rfl
  | cons c front ih =>
    obtain ⟨differs, others⟩ := not_or.mp (mt List.mem_cons.mpr plain)
    rw [List.cons_append, beforeFirst_cons (Ne.symm differs), ih others]

/-- A reference ends in the last of the segments that it joins, also if this is the only one. -/
theorem lastSegment_joined (front : List String) {last : String} (plain : ':' ∉ last.toList) :
    lastSegment (joined (front ++ [last])) = last := by
  have backwards : ':' ∉ last.toList.reverse := by simpa using plain
  by_cases alone : front = []
  · subst alone
    have single : joined [last] = last := by simp [joined]
    rw [List.nil_append, single, lastSegment, beforeFirst_plain backwards, List.reverse_reverse,
      String.ofList_toList]
  · have spelled : (joined (front ++ [last])).toList =
        (joined front).toList ++ ':' :: ':' :: last.toList := by
      rw [joined, String.intercalate_append_of_ne_nil alone (by simp)]
      simp [joined]
    have turned : ((joined front).toList ++ ':' :: ':' :: last.toList).reverse =
        last.toList.reverse ++ ':' :: ':' :: (joined front).toList.reverse := by
      simp
    rw [lastSegment, spelled, turned, beforeFirst_append backwards, List.reverse_reverse,
      String.ofList_toList]

theorem isIdentifier_plain {text : String} (identifier : isIdentifier text = true) :
    ':' ∉ text.toList := by
  simp only [isIdentifier, Bool.and_eq_true] at identifier
  have word := identifier.1.1
  cases spelled : text.toList with
  | nil => simp
  | cons first rest =>
    simp only [spelled, isWord, Bool.and_eq_true, List.all_eq_true] at word
    rintro (_ | ⟨_, inside⟩)
    · exact absurd word.1 (by decide)
    · exact absurd (word.2 _ inside) (by decide)

end Manifest.Reference

theorem lastSegment_entryReference {metadata : Metadata} {platform : Platform}
    (identifier : Reference.isIdentifier (metadata.entryType platform) = true) :
    Reference.lastSegment (metadata.entryReference platform) = metadata.entryType platform :=
  Reference.lastSegment_joined _ (Reference.isIdentifier_plain identifier)

/-! ## Generated artifacts -/

/-- The entry point and the descriptor of a plugin agree. With the dependencies that are
declared for the platform, or for all of them: the entry point holds one data literal,
which lists exactly these in their order, and names no dependency in any other literal;
their names are split into hard and soft ones, and the descriptor lists them as its host
wants it. So each has its role once, and nothing meant for other platforms comes in.
Name and version are the same in both, and the descriptor's main reference ends in the
one type that the entry point declares. All of this is in what is generated: scanning the
source gives these tokens, and reading the descriptor's text gives this record. -/
theorem artifacts_agree (metadata : Metadata) (platform : Platform) :
    metadata.hardNames platform = namesOf false (declaredFor metadata platform) ∧
    metadata.softNames platform = namesOf true (declaredFor metadata platform) ∧
    (hardThenSoft (declaredFor metadata platform)).Perm
      ((declaredFor metadata platform).map fun dependency =>
        (dependency.name, dependency.soft)) ∧
    ∃ plugin, Descriptor.plugin? (Descriptor.document metadata platform) platform = some plugin ∧
      (Descriptor.fieldNames plugin).Nodup ∧
      Descriptor.Lists plugin (declaredFor metadata platform) platform ∧
      (∀ tokens, EntryPoint.tokens? metadata platform = some tokens →
        ∃ data reference,
          (EntryPoint.literals "PluginData" [] tokens).map EntryPoint.readData? = [some data] ∧
          data.dependencies = (declaredFor metadata platform).map (fun dependency =>
            ⟨dependency.name, dependency.soft⟩) ∧
          (EntryPoint.literals "PluginDependency" [] tokens).map EntryPoint.readRequirement? =
            data.dependencies.map some ∧
          plugin.field? "name" = some (.text data.name) ∧
          plugin.field? "version" = some (.text data.version) ∧
          plugin.field? (Descriptor.mainField platform) = some (.text reference) ∧
          EntryPoint.declaredTypes tokens = [Reference.lastSegment reference]) ∧
      ∀ generated, Build.generate metadata platform = .ok generated →
        (∃ tokens, EntryPoint.tokens? metadata platform = some tokens ∧
          EntryPoint.scan? generated.bootstrap.contents = some tokens) ∧
        Descriptor.read? platform generated.descriptor.contents =
          some (Descriptor.document metadata platform) := by
  obtain ⟨plugin, held, name, version, main, lists⟩ :=
    Descriptor.document_reads metadata platform
  refine ⟨hardNames_eq metadata platform, softNames_eq metadata platform, hardThenSoft_perm _,
    plugin, held, Descriptor.fields_come_once metadata held, lists, fun tokens printed => ?_,
    fun generated done => ?_⟩
  · obtain ⟨literal, requirements, declared, identifier⟩ := EntryPoint.entryPoint_reads printed
    have type := lastSegment_entryReference identifier
    refine ⟨EntryPoint.data metadata platform, metadata.entryReference platform, literal, ?_,
      requirements, name, version, main, type.symm ▸ declared⟩
    rw [← dependenciesOn_eq]
    rfl
  · obtain ⟨source, printed, rfl⟩ := Build.generate_ok done
    exact ⟨EntryPoint.scan?_source printed, Descriptor.read?_render metadata platform⟩

/-- A plugin that builds on others, each of them meant for other platforms. -/
def courier : Metadata where
  id := "courier"
  name := ""
  version := "1.0.0"
  authors := ["ann"]
  url := none
  description := some "Carries post"
  main := "core::Courier"
  dependencies := [⟨"Bank", true, []⟩, ⟨"Mail", false, [.velocity, .sponge]⟩,
    ⟨"Vault", false, [.bukkit]⟩]
  platforms := []

theorem courier_artifacts_agree : ∃ generated tokens descriptor plugin data,
    Build.generate courier .velocity = .ok generated ∧
      EntryPoint.scan? generated.bootstrap.contents = some tokens ∧
      (EntryPoint.literals "PluginData" [] tokens).map EntryPoint.readData? = [some data] ∧
      data.dependencies = [⟨"Bank", true⟩, ⟨"Mail", false⟩] ∧
      Descriptor.read? .velocity generated.descriptor.contents = some descriptor ∧
      Descriptor.plugin? descriptor .velocity = some plugin ∧
      Descriptor.Lists plugin (declaredFor courier .velocity) .velocity ∧
      plugin.field? "name" = some (.text data.name) := by
  obtain ⟨-, -, -, plugin, held, -, lists, agree, texts⟩ := artifacts_agree courier .velocity
  have made : ∃ generated, Build.generate courier .velocity = .ok generated := by
    have sound : courier.fault? = none := by decide +kernel
    have printed : (EntryPoint.source? courier .velocity).isSome = true := by decide +kernel
    obtain ⟨source, spelt⟩ := Option.isSome_iff_exists.mp printed
    simp only [Build.generate, Metadata.checked, sound, bind, Except.bind, spelt]
    exact ⟨_, rfl⟩
  obtain ⟨generated, made⟩ := made
  obtain ⟨⟨tokens, spelled, scanned⟩, read⟩ := texts generated made
  obtain ⟨data, _, literal, dependencies, -, name, -⟩ := agree tokens spelled
  exact ⟨generated, tokens, _, plugin, data, made, scanned, literal, dependencies, read, held,
    lists, name⟩

end PluginBridge
