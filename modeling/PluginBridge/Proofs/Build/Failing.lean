import Mathlib.Data.List.Induction
import PluginBridge.Build.Script
import PluginBridge.Proofs.Build.Writing
import PluginBridge.Proofs.Files.Path

/-! Builds that fail. The files of one platform are written all or none, and platforms
are written one after another: when a platform cannot be written, those before it stay,
and nothing else has changed. -/
namespace PluginBridge.Build
open Files Manifest

/-! ## Several writes -/

/-- A place holds what was written there, if all that was written there is the same. -/
theorem overwritten_of_mem {writes : List (Place × ByteArray)} {held : Place → Option ByteArray}
    {place : Place} {bytes : ByteArray}
    (agree : ∀ write ∈ writes, write.1 = place → write.2 = bytes)
    (written : (place, bytes) ∈ writes) : overwritten writes held place = some bytes := by
  induction writes using List.reverseRecOn with
  | nil => cases written
  | append_singleton earlier last ih =>
    have after : overwritten (earlier ++ [last]) held =
        Function.update (overwritten earlier held) last.1 (some last.2) :=
      overwritten_append earlier [last] held
    rw [after]
    by_cases same : last.1 = place
    · rw [same, Function.update_self, agree last (by simp) same]
    · have before : (place, bytes) ∈ earlier := by
        obtain old | new := List.mem_append.mp written
        · exact old
        · exact absurd (congrArg Prod.fst (List.mem_singleton.mp new)).symm same
      rw [Function.update_of_ne (Ne.symm same)]
      exact ih (fun write member => agree write (by simp [member])) before

/-- What is written for a plugin on its platform, below the folder for generated files. -/
def writesOf (working : Place) (root : String) (plugin : GeneratedPlugin) :
    List (Place × ByteArray) :=
  plugin.files.map (writeOf working (join root plugin.platform.id))

/-- When a platform cannot be written, exactly those before it have been. -/
theorem writePlugins_error {working : Place} {root : String} {tree after : Tree}
    {plugins : List GeneratedPlugin} {failure : Failure} (known : Numbered tree)
    (failed : writePlugins working root tree plugins = (after, .error failure)) :
    ∃ finished plugin rest, plugins = finished ++ plugin :: rest ∧
      after.contents? = overwritten (finished.flatMap (writesOf working root)) tree.contents? ∧
      after.temporaries = tree.temporaries ∧ ∃ file ∈ plugin.files,
        failure = .unwritable file.artifact (join (join root plugin.platform.id) file.path) := by
  induction plugins generalizing tree with
  | nil => cases failed
  | cons plugin rest ih =>
    rw [writePlugins] at failed
    split at failed
    · next stopped other result =>
      cases failed
      obtain ⟨held, temporaries, -, named⟩ := writeAll_error known result
      exact ⟨[], plugin, rest, rfl, held, temporaries, named⟩
    · next middle paths result =>
      obtain ⟨held, temporaries, number, -⟩ := writeAll_ok known result
      have knows : Numbered middle := by
        intro temporary there
        rw [temporaries] at there
        exact Nat.lt_of_lt_of_le (known temporary there) number
      split at failed
      · next final other stopped =>
        cases failed
        obtain ⟨finished, at', later, rfl, kept, left, named⟩ := ih knows stopped
        refine ⟨plugin :: finished, at', later, rfl, ?_, left.trans temporaries, named⟩
        rw [kept, held, List.flatMap_cons, overwritten_append, writesOf]
      · cases failed

/-! ## Generated files and their places -/

/-- The place of an output folder. -/
def outputPlace (working : Place) (output : String) : Place :=
  (startOf working output).along (names output)

/-- A relative path that never goes back leads from the folder it is put in. -/
theorem destination_join (working : Place) (folder : String) {path : String}
    (relative : isAbsolute path = false) (forward : ".." ∉ names path) :
    destination working (join folder path) = destination working folder ++ names path := by
  rw [destination, destination, startOf, isAbsolute_join folder relative, ← startOf,
    names_join folder relative, Place.along_append, Place.along_plain _ forward]

/-- The place of a generated file. -/
def placeOf (working : Place) (output : String) (plugin : GeneratedPlugin)
    (file : GeneratedFile) : Place :=
  outputPlace working output ++ outputName :: plugin.platform.id :: names file.path

theorem generateAll_ok {metadata : Metadata} {plugins : List GeneratedPlugin}
    (generated : generateAll metadata = .ok plugins) :
    ∀ plugin ∈ plugins, generate metadata plugin.platform = .ok plugin := by
  unfold generateAll at generated
  generalize metadata.targets = targets at generated
  induction targets generalizing plugins with
  | nil =>
    cases generated
    simp
  | cons platform rest ih =>
    rw [List.mapM_cons] at generated
    obtain ⟨first, done, generated⟩ := Decode.bind_eq_ok_iff.mp generated
    obtain ⟨others, left, generated⟩ := Decode.bind_eq_ok_iff.mp generated
    cases generated
    refine List.forall_mem_cons.mpr ⟨?_, ih left⟩
    obtain ⟨source, -, rfl⟩ := generate_ok done
    exact done

theorem names_descriptorPath (platform : Platform) :
    isAbsolute platform.descriptorPath = false ∧ ".." ∉ names platform.descriptorPath ∧
      names platform.descriptorPath ≠ names EntryPoint.fileName := by
  cases platform <;> decide +kernel

theorem names_id (platform : Platform) :
    isAbsolute platform.id = false ∧ names platform.id = [platform.id] ∧ platform.id ≠ ".." := by
  cases platform <;> decide +kernel

theorem id_injective {first second : Platform} (same : first.id = second.id) :
    first = second := by
  cases first <;> cases second <;> first | rfl | exact absurd same (by decide)

section
variable {metadata : Metadata} {plugin : GeneratedPlugin} {file : GeneratedFile}

theorem mem_files_iff :
    file ∈ plugin.files ↔ file = plugin.bootstrap ∨ file = plugin.descriptor := by
  simp [GeneratedPlugin.files]

theorem generate_paths (generated : generate metadata plugin.platform = .ok plugin) :
    plugin.bootstrap.path = EntryPoint.fileName ∧
      plugin.descriptor.path = plugin.platform.descriptorPath := by
  obtain ⟨source, -, same⟩ := generate_ok generated
  exact ⟨congrArg (·.bootstrap.path) same, congrArg (·.descriptor.path) same⟩

/-- A generated file goes to its place below the output folder. -/
theorem writeOf_eq (working : Place) (output : String)
    (generated : generate metadata plugin.platform = .ok plugin) (member : file ∈ plugin.files) :
    writeOf working (join (join output outputName) plugin.platform.id) file =
      (placeOf working output plugin file, file.contents.toUTF8) := by
  have relative : isAbsolute file.path = false ∧ ".." ∉ names file.path := by
    obtain ⟨bootstrap, descriptor⟩ := generate_paths generated
    obtain rfl | rfl := mem_files_iff.mp member
    · rw [bootstrap]
      decide +kernel
    · rw [descriptor]
      exact ⟨(names_descriptorPath _).1, (names_descriptorPath _).2.1⟩
  obtain ⟨inside, named, forward⟩ := names_id plugin.platform
  have folder : isAbsolute outputName = false ∧ names outputName = [outputName] ∧
      outputName ≠ ".." := by decide +kernel
  rw [writeOf, destination_join _ _ relative.1 relative.2,
    destination_join _ _ inside (by simpa [named] using forward.symm),
    destination_join _ _ folder.1 (by simpa [folder.2.1] using folder.2.2.symm), named, folder.2.1,
    placeOf, outputPlace, destination]
  simp

/-- Generated files that go to one place are the same file of one plugin. -/
theorem placeOf_injective {working : Place} {output : String} {other : GeneratedPlugin}
    {more : GeneratedFile} (generated : generate metadata plugin.platform = .ok plugin)
    (too : generate metadata other.platform = .ok other) (member : file ∈ plugin.files)
    (among : more ∈ other.files)
    (same : placeOf working output plugin file = placeOf working output other more) :
    file = more := by
  obtain ⟨platform, path⟩ : plugin.platform.id = other.platform.id ∧
      names file.path = names more.path := by
    simpa [placeOf] using same
  rw [id_injective platform] at generated
  obtain rfl := Except.ok.inj (generated.symm.trans too)
  obtain ⟨bootstrap, descriptor⟩ := generate_paths generated
  have differ := (names_descriptorPath plugin.platform).2.2
  obtain rfl | rfl := mem_files_iff.mp member <;> obtain rfl | rfl := mem_files_iff.mp among
  · rfl
  · exact absurd (descriptor ▸ bootstrap ▸ path).symm differ
  · exact absurd (descriptor ▸ bootstrap ▸ path) differ
  · rfl

end

/-! ## A build that fails -/

/-- Why a build fails, and which plugins it has written by then. -/
inductive FailsAfter (surroundings : Surroundings) (folder output : String) (package : Package) :
    List GeneratedPlugin → Failure → Prop where
  | loading {failure : Failure} (failed : load surroundings folder package = .error failure) :
      FailsAfter surroundings folder output package [] failure
  | generating {metadata : Metadata} {failure : Failure}
      (loaded : load surroundings folder package = .ok metadata)
      (failed : generateAll metadata = .error failure) :
      FailsAfter surroundings folder output package [] failure
  | writing {metadata : Metadata} {finished rest : List GeneratedPlugin}
      {plugin : GeneratedPlugin} {file : GeneratedFile}
      (loaded : load surroundings folder package = .ok metadata)
      (generated : generateAll metadata = .ok (finished ++ plugin :: rest))
      (member : file ∈ plugin.files) :
      FailsAfter surroundings folder output package finished (.unwritable file.artifact
        (join (join (join output outputName) plugin.platform.id) file.path))

section
variable {metadata : Metadata} {finished : List GeneratedPlugin}
  (generated : ∀ plugin ∈ finished, generate metadata plugin.platform = .ok plugin)
  (working : Place) (output : String)
include generated

theorem mem_writes_iff {write : Place × ByteArray} :
    write ∈ finished.flatMap (writesOf working (join output outputName)) ↔
      ∃ plugin ∈ finished, ∃ file ∈ plugin.files,
        write = (placeOf working output plugin file, file.contents.toUTF8) := by
  simp only [List.mem_flatMap, writesOf, List.mem_map]
  constructor
  · rintro ⟨plugin, listed, file, member, rfl⟩
    exact ⟨plugin, listed, file, member,
      writeOf_eq working output (generated plugin listed) member⟩
  · rintro ⟨plugin, listed, file, member, rfl⟩
    exact ⟨plugin, listed, file, member,
      writeOf_eq working output (generated plugin listed) member⟩

theorem overwritten_at (held : Place → Option ByteArray) {plugin : GeneratedPlugin}
    (listed : plugin ∈ finished) {file : GeneratedFile} (member : file ∈ plugin.files) :
    overwritten (finished.flatMap (writesOf working (join output outputName))) held
      (placeOf working output plugin file) = some file.contents.toUTF8 := by
  refine overwritten_of_mem (fun write inside same => ?_)
    ((mem_writes_iff generated working output).mpr ⟨plugin, listed, file, member, rfl⟩)
  obtain ⟨other, too, more, among, rfl⟩ := (mem_writes_iff generated working output).mp inside
  rw [placeOf_injective (generated other too) (generated plugin listed) among member same]

theorem overwritten_apart (held : Place → Option ByteArray) {place : Place}
    (apart : ∀ plugin ∈ finished, ∀ file ∈ plugin.files,
      place ≠ placeOf working output plugin file) :
    overwritten (finished.flatMap (writesOf working (join output outputName))) held place =
      held place := by
  refine overwritten_of_not_mem fun write inside same => ?_
  obtain ⟨plugin, listed, file, member, rfl⟩ := (mem_writes_iff generated working output).mp inside
  exact apart plugin listed file member same.symm

end

/-- Loading and generating write nothing; writing stops at the first platform that cannot
be written. -/
theorem buildIn_error {surroundings : Surroundings} {folder output : String} {package : Package}
    (known : Numbered surroundings.files) {after : Tree} {failure : Failure}
    (failed : buildIn surroundings folder output package = (after, .error failure)) :
    ∃ (finished : List GeneratedPlugin) (metadata : Metadata),
      FailsAfter surroundings folder output package finished failure ∧
      (∀ plugin ∈ finished, generate metadata plugin.platform = .ok plugin) ∧
      after.temporaries = surroundings.files.temporaries ∧
      after.contents? = overwritten (finished.flatMap
        (writesOf surroundings.working (join output outputName))) surroundings.files.contents? := by
  unfold buildIn at failed
  split at failed
  · next stopped =>
    cases failed
    exact ⟨[], combine package .empty, .loading stopped, by simp, rfl, rfl⟩
  · next metadata loaded =>
    split at failed
    · next stopped =>
      cases failed
      exact ⟨[], metadata, .generating loaded stopped, by simp, rfl, rfl⟩
    · next plugins generated =>
      obtain ⟨finished, plugin, rest, rfl, contents, temporaries, file, member, rfl⟩ :=
        writePlugins_error known failed
      refine ⟨finished, metadata, .writing loaded generated member, fun plugin listed => ?_,
        temporaries, contents⟩
      exact generateAll_ok generated plugin (List.mem_append_left _ listed)

/-- A build that fails has written the platforms before the one that it could not write,
and nothing else has changed: each file of those platforms holds what was generated for it,
every other place holds what it held, and no temporary file stays. So everything is as it
was before the build if and only if those files had been there with just these contents. -/
theorem failed_build_keeps_earlier_platforms (surroundings : Surroundings)
    (folder output : String) (package : Package) (known : Numbered surroundings.files)
    {after : Tree} {failure : Failure}
    (failed : buildIn surroundings folder output package = (after, .error failure)) :
    after.temporaries = surroundings.files.temporaries ∧
    ∃ finished : List GeneratedPlugin,
      FailsAfter surroundings folder output package finished failure ∧
      (∀ plugin ∈ finished, ∀ file ∈ plugin.files,
        after.contents? (placeOf surroundings.working output plugin file) =
          some file.contents.toUTF8) ∧
      (∀ place, (∀ plugin ∈ finished, ∀ file ∈ plugin.files,
          place ≠ placeOf surroundings.working output plugin file) →
        after.contents? place = surroundings.files.contents? place) ∧
      (after.contents? = surroundings.files.contents? ↔
        ∀ plugin ∈ finished, ∀ file ∈ plugin.files,
          surroundings.files.contents? (placeOf surroundings.working output plugin file) =
            some file.contents.toUTF8) := by
  obtain ⟨finished, metadata, reason, generated, temporaries, contents⟩ :=
    buildIn_error known failed
  have there {plugin : GeneratedPlugin} (listed : plugin ∈ finished) {file : GeneratedFile}
      (member : file ∈ plugin.files) :
      after.contents? (placeOf surroundings.working output plugin file) =
        some file.contents.toUTF8 := by
    rw [contents]
    exact overwritten_at generated _ _ _ listed member
  have elsewhere {place : Place} (apart : ∀ plugin ∈ finished, ∀ file ∈ plugin.files,
      place ≠ placeOf surroundings.working output plugin file) :
      after.contents? place = surroundings.files.contents? place := by
    rw [contents]
    exact overwritten_apart generated _ _ _ apart
  refine ⟨temporaries, finished, reason, fun plugin listed file => there listed,
    fun place => elsewhere, fun same plugin listed file member => ?_, fun before => ?_⟩
  · rw [← same]
    exact there listed member
  · funext place
    by_cases written : ∃ plugin ∈ finished, ∃ file ∈ plugin.files,
      place = placeOf surroundings.working output plugin file
    · obtain ⟨plugin, listed, file, member, rfl⟩ := written
      rw [there listed member, before plugin listed file member]
    · exact elsewhere fun plugin listed file member same =>
        written ⟨plugin, listed, file, member, same⟩

/-- A plugin for two hosts, where a file is in the way of the second one's descriptor. -/
def workshop : Surroundings where
  files := ⟨[(["m"], .folder), (["m", "Chameleon.toml"], .file (String.join
    ["[plugin]\nmain = \"core::Greeter\"\n", "platforms = [\"bukkit\", \"sponge\"]\n"]).toUTF8),
    (["out"], .folder), (["out", "chameleon"], .folder), (["out", "chameleon", "sponge"], .folder),
    (["out", "chameleon", "sponge", "META-INF"], .file "blocked".toUTF8)], [], 0⟩
  environment := []
  workingFolder := "/"
  settingsFolder := "/home/settings"

def workpiece : Package := ⟨"greeter", "1.0.0", [], none, none⟩

/-- The first host's descriptor was not there before the build. It fails, and leaves it. -/
theorem failed_build_leaves_first_platform : ∃ failure,
    (buildIn workshop "m" "out" workpiece).2 = .error failure ∧
      workshop.files.contents? ["out", "chameleon", "bukkit", "plugin.yml"] = none ∧
      ((buildIn workshop "m" "out" workpiece).1.contents?
        ["out", "chameleon", "bukkit", "plugin.yml"]).isSome = true := by
  have fails : (buildIn workshop "m" "out" workpiece).2.toBool = false := by decide +kernel
  rcases result : (buildIn workshop "m" "out" workpiece).2 with failure | paths
  · exact ⟨failure, rfl, by decide +kernel, by decide +kernel⟩
  · rw [result] at fails
    cases fails

theorem workshop_keeps_first_platform : ∃ after failure finished,
    buildIn workshop "m" "out" workpiece = (after, .error failure) ∧
      after.temporaries = [] ∧
      FailsAfter workshop "m" "out" workpiece finished failure ∧
      ∀ plugin ∈ finished, ∀ file ∈ plugin.files,
        after.contents? (placeOf workshop.working "out" plugin file) =
          some file.contents.toUTF8 := by
  have fails : (buildIn workshop "m" "out" workpiece).2.toBool = false := by decide +kernel
  rcases result : buildIn workshop "m" "out" workpiece with ⟨after, failure | paths⟩
  · obtain ⟨temporaries, finished, reason, there, -⟩ :=
      failed_build_keeps_earlier_platforms workshop "m" "out" workpiece nofun result
    exact ⟨after, failure, finished, rfl, temporaries, reason, there⟩
  · rw [result] at fails
    cases fails

end PluginBridge.Build
