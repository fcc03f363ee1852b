import PluginBridge.Proofs.Descriptor.Agreement

/-! Metadata that passes is metadata that can be generated from. What the checks let
through is described without them; for all of that, on every platform, each name in the
generated source is an identifier, however the references are cut and put together. -/
namespace PluginBridge
open Manifest

/-! ## References and their segments -/

namespace Manifest.Reference
open Text

theorem cut_ne_nil (text : List Char) : cut text ≠ [] := by
  fun_cases cut text with
  | case1 => exact List.cons_ne_nil _ _
  | case2 c rest => exact extendFirst_ne_nil c _
  | case3 => exact List.cons_ne_nil _ _

/-- Nothing is lost where a reference is cut. -/
theorem intercalate_cut (text : List Char) : [':', ':'].intercalate (cut text) = text := by
  fun_induction cut text with
  | case1 rest ih =>
    rw [intercalate_nil_cons _ (cut_ne_nil rest), ih]
    rfl
  | case2 c rest _ ih => rw [intercalate_extendFirst _ c (cut_ne_nil rest), ih]
  | case3 => rfl

theorem joined_segments (reference : String) : joined (segments reference) = reference := by
  rw [← String.toList_inj, joined, String.toList_intercalate, segments, List.map_map]
  simpa using intercalate_cut reference.toList

theorem cut_cons {c : Char} (differs : c ≠ ':') (rest : List Char) :
    cut (c :: rest) = extendFirst c (cut rest) :=
  cut.eq_2 c rest fun _ same _ => differs same

theorem cut_plain {text : List Char} (plain : ':' ∉ text) : cut text = [text] := by
  induction text with
  | nil => rfl
  | cons c rest ih =>
    obtain ⟨differs, others⟩ := not_or.mp (mt List.mem_cons.mpr plain)
    rw [cut_cons (Ne.symm differs), ih others, extendFirst]

theorem cut_append {front : List Char} (plain : ':' ∉ front) (rest : List Char) :
    cut (front ++ ':' :: ':' :: rest) = front :: cut rest := by
  induction front with
  | nil => rfl
  | cons c front ih =>
    obtain ⟨differs, others⟩ := not_or.mp (mt List.mem_cons.mpr plain)
    rw [List.cons_append, cut_cons (Ne.symm differs), ih others, extendFirst]

/-- Names without colons come apart just as they were joined. -/
theorem segments_joined {names : List String} (nonempty : names ≠ [])
    (plain : ∀ name ∈ names, ':' ∉ name.toList) : segments (joined names) = names := by
  induction names with
  | nil => exact absurd rfl nonempty
  | cons name rest ih =>
    obtain ⟨here, others⟩ := List.forall_mem_cons.mp plain
    cases rest with
    | nil => simp [joined, segments, cut_plain here]
    | cons next more =>
      have spelled : (joined (name :: next :: more)).toList =
          name.toList ++ ':' :: ':' :: (joined (next :: more)).toList := by
        simp [joined, String.toList_intercalate]
      rw [segments, spelled, cut_append here, List.map_cons, String.ofList_toList]
      exact congrArg (name :: ·) (ih (List.cons_ne_nil _ _) others)

/-! ## Names -/

def IsLetter (c : Char) : Prop := ('a' ≤ c ∧ c ≤ 'z') ∨ ('A' ≤ c ∧ c ≤ 'Z')

def IsDigit (c : Char) : Prop := '0' ≤ c ∧ c ≤ '9'

/-- What can name something in generated source: a letter or underscore, then letters,
digits and underscores, but no keyword and not the underscore alone. -/
structure IsName (text : String) : Prop where
  spelled : ∃ first rest, text.toList = first :: rest ∧ (IsLetter first ∨ first = '_') ∧
    ∀ c ∈ rest, IsLetter c ∨ IsDigit c ∨ c = '_'
  named : text ≠ "_"
  free : text ∉ keywords

theorem isAlpha_iff (c : Char) : c.isAlpha = true ↔ IsLetter c := by
  have ranges : c.isAlpha = (decide ('A' ≤ c ∧ c ≤ 'Z') || ('a' ≤ c && c ≤ 'z')) := rfl
  simp only [ranges, Bool.or_eq_true, Bool.and_eq_true, decide_eq_true_eq, IsLetter]
  exact or_comm

theorem isDigit_iff (c : Char) : c.isDigit = true ↔ IsDigit c := by
  have range : c.isDigit = ('0' ≤ c && c ≤ '9') := rfl
  simp only [range, Bool.and_eq_true, decide_eq_true_eq, IsDigit]

theorem startsIdentifier_iff (c : Char) :
    startsIdentifier c = true ↔ IsLetter c ∨ c = '_' := by
  simp [startsIdentifier, isAlpha_iff]

theorem continuesIdentifier_iff (c : Char) :
    continuesIdentifier c = true ↔ IsLetter c ∨ IsDigit c ∨ c = '_' := by
  have kinds : continuesIdentifier c = (c.isAlpha || c.isDigit || c == '_') := rfl
  simp [kinds, isAlpha_iff, isDigit_iff, or_assoc]

theorem isIdentifier_iff (text : String) : isIdentifier text = true ↔ IsName text := by
  have word : isWord text.toList = true ↔ ∃ first rest, text.toList = first :: rest ∧
      (IsLetter first ∨ first = '_') ∧ ∀ c ∈ rest, IsLetter c ∨ IsDigit c ∨ c = '_' := by
    cases spelled : text.toList with
    | nil => simp [isWord]
    | cons first rest =>
      simp [isWord, startsIdentifier_iff, continuesIdentifier_iff]
  simp only [isIdentifier, Bool.and_eq_true, word, bne_iff_ne, Bool.not_eq_true',
    List.contains_eq_mem, decide_eq_false_iff_not]
  constructor
  · rintro ⟨⟨spelled, named⟩, free⟩
    exact ⟨spelled, named, free⟩
  · intro name
    exact ⟨⟨name.spelled, name.named⟩, name.free⟩

theorem IsName.plain {text : String} (name : IsName text) : ':' ∉ text.toList :=
  isIdentifier_plain ((isIdentifier_iff text).mpr name)

/-- A name goes on with letters and stays one if no keyword ends in them. -/
theorem IsName.append {text ending : String} (name : IsName text)
    (letters : ∀ c ∈ ending.toList, IsLetter c) (long : ending.toList ≠ [])
    (free : ∀ keyword ∈ keywords, ¬ ending.toList <:+ keyword.toList) :
    IsName (text ++ ending) := by
  obtain ⟨first, rest, spelled, starts, goes⟩ := name.spelled
  have whole : (text ++ ending).toList = first :: (rest ++ ending.toList) := by
    rw [String.toList_append, spelled, List.cons_append]
  refine ⟨⟨first, rest ++ ending.toList, whole, starts, ?_⟩, ?_, ?_⟩
  · intro c inside
    obtain old | new := List.mem_append.mp inside
    · exact goes c old
    · exact .inl (letters c new)
  · intro lone
    have short : rest ++ ending.toList = [] := by
      rw [lone] at whole
      exact (List.cons.inj whole).2.symm
    exact long (List.append_eq_nil_iff.mp short).2
  · intro kept
    refine free _ kept ?_
    rw [String.toList_append]
    exact List.suffix_append _ _

end Manifest.Reference

/-! ## Names of platforms -/

namespace Manifest.Platform
open Reference

theorem isName_id (platform : Platform) : IsName platform.id := by
  rw [← isIdentifier_iff]
  cases platform <;> decide

theorem isName_adapterPackage (platform : Platform) : IsName platform.adapterPackage := by
  rw [← isIdentifier_iff]
  cases platform <;> decide

theorem isName_adapterType (platform : Platform) : IsName platform.adapterType := by
  rw [← isIdentifier_iff]
  cases platform <;> decide

/-- The title of a platform can end every name. -/
theorem isName_append_title {text : String} (name : IsName text) (platform : Platform) :
    IsName (text ++ platform.title) := by
  have letters : platform.title.toList.all Char.isAlpha = true := by cases platform <;> decide
  have long : platform.title.toList ≠ [] := by cases platform <;> decide
  have free : ∀ keyword ∈ keywords, ¬ platform.title.toList <:+ keyword.toList := by
    cases platform <;> decide
  exact name.append (fun c inside => (isAlpha_iff c).mp (List.all_eq_true.mp letters c inside))
    long free

end Manifest.Platform

/-! ## What the checks let through -/

namespace Manifest.Metadata
open Reference

/-- A text of small letters, digits, underscores and hyphens, and of at least one of them. -/
def IsId (id : String) : Prop :=
  id ≠ "" ∧ ∀ c ∈ id.toList, ('a' ≤ c ∧ c ≤ 'z') ∨ IsDigit c ∨ c = '_' ∨ c = '-'

/-- A way to a type: names with double colons between them. -/
def IsPath (main : String) : Prop :=
  ∃ names, names ≠ [] ∧ (∀ name ∈ names, IsName name) ∧ main = String.intercalate "::" names

/-- What a plugin must say of itself for others to build on it. -/
structure Sound (metadata : Metadata) : Prop where
  id : IsId metadata.id
  version : ∃ c ∈ metadata.version.toList, Text.isBlank c = false
  main : IsPath metadata.main
  dependencies : ∀ dependency ∈ metadata.dependencies, dependency.name ≠ ""

theorem isIdCharacter_iff (c : Char) :
    isIdCharacter c = true ↔ ('a' ≤ c ∧ c ≤ 'z') ∨ IsDigit c ∨ c = '_' ∨ c = '-' := by
  simp [isIdCharacter, isDigit_iff, or_assoc]

theorem idFault_eq_none_iff (id : String) : idFault id = none ↔ IsId id := by
  unfold idFault IsId
  split
  · next blank => simp [String.isEmpty_iff.mp blank]
  · next filled =>
    have named : id ≠ "" := fun blank => filled (String.isEmpty_iff.mpr blank)
    simp [named, isIdCharacter_iff]

theorem versionFault_eq_none_iff (version : String) :
    versionFault version = none ↔ ∃ c ∈ version.toList, Text.isBlank c = false := by
  simp [versionFault, Text.isBlankText]

theorem isPath_iff (main : String) :
    IsPath main ↔ ∀ segment ∈ segments main, IsName segment := by
  constructor
  · rintro ⟨names, nonempty, named, rfl⟩
    have apart := segments_joined nonempty fun name among => (named name among).plain
    rwa [show String.intercalate "::" names = joined names from rfl, apart]
  · intro named
    have nonempty : segments main ≠ [] := by simp [segments, cut_ne_nil]
    exact ⟨segments main, nonempty, named, (joined_segments main).symm⟩

theorem mainFault_eq_none_iff (main : String) : mainFault main = none ↔ IsPath main := by
  rw [isPath_iff]
  unfold mainFault
  split
  · next blank =>
    obtain rfl := String.isEmpty_iff.mp blank
    have unnamed : ¬ IsName "" := by
      rw [← isIdentifier_iff]
      decide
    simp [segments, cut, unnamed]
  · simp [isIdentifier_iff]

theorem dependencyFault_eq_none_iff (dependencies : List Dependency) :
    dependencyFault dependencies = none ↔
      ∀ dependency ∈ dependencies, dependency.name ≠ "" := by
  simp [dependencyFault]

/-- The checks find no fault in sound metadata, and in no other. -/
theorem fault?_eq_none_iff (metadata : Metadata) : metadata.fault? = none ↔ metadata.Sound := by
  have checks : metadata.fault? = none ↔ idFault metadata.id = none ∧
      versionFault metadata.version = none ∧ mainFault metadata.main = none ∧
      dependencyFault metadata.dependencies = none := by
    simp [fault?]
  rw [checks, idFault_eq_none_iff, versionFault_eq_none_iff, mainFault_eq_none_iff,
    dependencyFault_eq_none_iff]
  constructor
  · rintro ⟨id, version, main, dependencies⟩
    exact ⟨id, version, main, dependencies⟩
  · intro sound
    exact ⟨sound.id, sound.version, sound.main, sound.dependencies⟩

theorem checked_of_fault {metadata : Metadata} {fault : Fault}
    (found : metadata.fault? = some fault) : metadata.checked = .error (.invalid fault) := by
  rw [checked, found]

theorem checked_eq_ok_iff (metadata : Metadata) :
    metadata.checked = .ok metadata ↔ metadata.Sound := by
  rw [← fault?_eq_none_iff]
  cases found : metadata.fault? with
  | none => simp [checked, found]
  | some fault => simp [checked_of_fault found]

/-! ## Names that are generated -/

section
variable {metadata : Metadata}

/-- Cut from the left or from the right, the way to the main type is the same. -/
theorem segments_main (path : IsPath metadata.main) :
    segments metadata.main = metadata.mainModule ++ [metadata.mainType] := by
  have named := (isPath_iff _).mp path
  have nonempty : segments metadata.main ≠ [] := by simp [segments, cut_ne_nil]
  have parted := List.dropLast_append_getLast nonempty
  have last : metadata.mainType = (segments metadata.main).getLast nonempty := by
    have plain := (named _ (List.getLast_mem nonempty)).plain
    have found := lastSegment_joined (segments metadata.main).dropLast plain
    rwa [parted, joined_segments] at found
  rw [mainModule, last, parted]

theorem isName_mainModule (path : IsPath metadata.main) {name : String}
    (among : name ∈ metadata.mainModule) : IsName name :=
  (isPath_iff _).mp path name (by rw [segments_main path]; exact List.mem_append_left _ among)

theorem isName_mainType (path : IsPath metadata.main) : IsName metadata.mainType :=
  (isPath_iff _).mp path _ (by rw [segments_main path]; exact List.mem_concat_self)

theorem mem_mainModule_of_mem_ownModule {name : String} (among : name ∈ metadata.ownModule) :
    name ∈ metadata.mainModule := by
  unfold ownModule at among
  split at among
  · split at among
    · exact List.dropLast_subset _ among
    · exact among
  · exact among

theorem isName_entryType (path : IsPath metadata.main) (platform : Platform) :
    IsName (metadata.entryType platform) :=
  Platform.isName_append_title (isName_mainType path) platform

theorem isName_entryModule (path : IsPath metadata.main) {platform : Platform} {name : String}
    (among : name ∈ metadata.entryModule platform) : IsName name := by
  obtain own | placed := List.mem_append.mp among
  · exact isName_mainModule path (mem_mainModule_of_mem_ownModule own)
  · have common : IsName "platform" := by
      rw [← isIdentifier_iff]
      decide
    obtain rfl | ⟨rfl⟩ := by simpa using placed
    · exact common
    · exact Platform.isName_id platform

/-- The segments of the reference to an entry point are names. -/
theorem isName_entryReference (path : IsPath metadata.main) (platform : Platform) :
    ∀ name ∈ metadata.entryModule platform ++ [metadata.entryType platform], IsName name := by
  intro name among
  obtain above | last := List.mem_append.mp among
  · exact isName_entryModule path above
  · rw [List.mem_singleton.mp last]
    exact isName_entryType path platform

theorem segments_entryReference (path : IsPath metadata.main) (platform : Platform) :
    segments (metadata.entryReference platform) =
      metadata.entryModule platform ++ [metadata.entryType platform] :=
  segments_joined (by simp) fun name among =>
    (isName_entryReference path platform name among).plain

end

end Manifest.Metadata

namespace EntryPoint
open Reference

theorem name?_of_isName {text : String} (name : IsName text) : name? text = some (.plain text) :=
  if_pos ((isIdentifier_iff text).mpr name)

theorem mapM_name?_of_isName {texts : List String} (names : ∀ text ∈ texts, IsName text) :
    texts.mapM name? = some (texts.map .plain) := by
  induction texts with
  | nil => rfl
  | cons text rest ih =>
    obtain ⟨first, others⟩ := List.forall_mem_cons.mp names
    simp [name?_of_isName first, ih others]

/-- There is an entry point for whatever has a name for its type. -/
theorem tokens?_of_isPath {metadata : Metadata} (path : Metadata.IsPath metadata.main)
    (platform : Platform) : ∃ tokens, tokens? metadata platform = some tokens := by
  have main := mapM_name?_of_isName ((Metadata.isPath_iff metadata.main).mp path)
  rw [← Option.isSome_iff_exists]
  simp only [tokens?, name?_of_isName (Metadata.isName_entryType path platform),
    name?_of_isName platform.isName_adapterPackage, name?_of_isName platform.isName_adapterType,
    main]
  rfl

end EntryPoint

namespace Build

theorem generate_of_checked_error {metadata : Metadata} {failure : Failure}
    (refused : metadata.checked = .error failure) (platform : Platform) :
    generate metadata platform = .error failure := by
  rw [generate, refused]
  rfl

/-- There is always a platform to build for, and what fails on the first one fails. -/
theorem generateAll_of_checked_error {metadata : Metadata} {failure : Failure}
    (refused : metadata.checked = .error failure) : generateAll metadata = .error failure := by
  have some_target : metadata.targets ≠ [] := by
    unfold Metadata.targets
    split
    · exact List.cons_ne_nil _ _
    · next named => exact fun none => named (List.isEmpty_iff.mpr none)
  obtain ⟨platform, rest, targets⟩ := List.exists_cons_of_ne_nil some_target
  rw [generateAll, targets, List.mapM_cons, generate_of_checked_error refused]
  rfl

theorem generate_of_sound {metadata : Metadata} (sound : metadata.Sound) {platform : Platform}
    {tokens : List EntryPoint.Token}
    (printed : EntryPoint.tokens? metadata platform = some tokens) :
    generate metadata platform = .ok ⟨platform,
      ⟨.bootstrap, EntryPoint.fileName,
        EntryPoint.header ++ EntryPoint.Token.spellAll tokens ++ "\n"⟩,
      ⟨.descriptor, platform.descriptorPath, Descriptor.render metadata platform⟩⟩ := by
  have source : EntryPoint.source? metadata platform =
      some (EntryPoint.header ++ EntryPoint.Token.spellAll tokens ++ "\n") := by
    rw [EntryPoint.source?, printed, Option.map_some]
  simp only [generate, metadata.checked_eq_ok_iff.mpr sound, bind, Except.bind, source]
  rfl

end Build

/-- The checks let through just the metadata that can be generated from. They pass exactly if
the id is made of the characters of ids, the version has a character that is no blank, the
main type is named by names with double colons between them, and every dependency has a
name. Then the way to the main type is the same from both ends, and for every platform the
entry point and the descriptor are generated: the reference to the entry point comes apart
into names, the last of which is the one type that the entry point declares. What does not
pass fails with what the checks say, on every platform. -/
theorem checks_fit_generation (metadata : Metadata) :
    (metadata.checked = .ok metadata ↔ metadata.Sound) ∧
    (metadata.Sound →
      metadata.main = String.intercalate "::" (metadata.mainModule ++ [metadata.mainType]) ∧
      ∀ platform, ∃ plugin tokens type,
        Build.generate metadata platform = .ok plugin ∧
        EntryPoint.tokens? metadata platform = some tokens ∧
        plugin.bootstrap.contents =
          EntryPoint.header ++ EntryPoint.Token.spellAll tokens ++ "\n" ∧
        plugin.descriptor.contents = Descriptor.render metadata platform ∧
        EntryPoint.declaredTypes tokens = [type] ∧
        (Reference.segments (metadata.entryReference platform)).getLast? = some type ∧
        ∀ segment ∈ Reference.segments (metadata.entryReference platform),
          Reference.IsName segment) ∧
    ∀ failure, metadata.checked = .error failure →
      (∀ platform, Build.generate metadata platform = .error failure) ∧
      Build.generateAll metadata = .error failure := by
  refine ⟨metadata.checked_eq_ok_iff, fun sound => ⟨?_, fun platform => ?_⟩,
    fun failure refused => ⟨Build.generate_of_checked_error refused,
      Build.generateAll_of_checked_error refused⟩⟩
  · have restored := Reference.joined_segments metadata.main
    rw [Metadata.segments_main sound.main] at restored
    exact restored.symm
  · obtain ⟨tokens, printed⟩ := EntryPoint.tokens?_of_isPath sound.main platform
    obtain ⟨-, -, declared, -⟩ := EntryPoint.entryPoint_reads printed
    have segments := Metadata.segments_entryReference sound.main platform
    refine ⟨_, tokens, metadata.entryType platform, Build.generate_of_sound sound printed, printed,
      rfl, rfl, declared, ?_, ?_⟩
    · rw [segments, List.getLast?_concat]
    · rw [segments]
      exact Metadata.isName_entryReference sound.main platform

/-- A colon too many is found, and everything else about the plugin is sound. -/
theorem courier_needs_its_main_type :
    (∃ plugin, Build.generate courier .velocity = .ok plugin) ∧
    Build.generate { courier with main := "core:::Courier" } .velocity =
      .error (.invalid (.mainSegment ":Courier" "core:::Courier")) := by
  obtain ⟨passes, generated, -⟩ := checks_fit_generation courier
  obtain ⟨plugin, _, _, made, -⟩ := (generated (passes.mp (by decide +kernel))).2 .velocity
  obtain ⟨-, -, refused⟩ := checks_fit_generation { courier with main := "core:::Courier" }
  exact ⟨⟨plugin, made⟩, (refused _ (by decide +kernel)).1 .velocity⟩

end PluginBridge
