import PluginBridge.Proofs.Build.Writing

/-! How a write comes out. Whether all files can be written, and which is the first that
cannot, is settled by the tree that the write begins with: a file cannot be staged if
something bars one of the folders above it, and it cannot take its place if a folder is
there, be it an old one or one above another of the files. -/
namespace PluginBridge.Build
open Files

/-- The folders above a path. -/
def above (working : Place) (path : String) : List Place :=
  (startOf working path).through (names path).dropLast

/-- What the staging of a file needs. -/
structure Stageable (tree : Tree) (working : Place) (path : String) : Prop where
  short : folderSize path ≤ longestPath
  spelled : ∀ name ∈ (names path).dropLast, isNullFree name = true
  free : ∀ folder ∈ above working path, ¬ tree.Bars folder
  room : temporarySize working path ≤ longestPath

/-- What a staged file needs to take its place, given the folders that are there by then. -/
structure Settleable (folder : Place → Prop) (working : Place) (path : String) : Prop where
  plain : namesFolder path = false
  short : fits path = true
  allowed : allowsName ((names path).getLast?.getD "") = true
  free : ¬ folder (destination working path)

/-- A place is that of a folder once all files are staged. -/
def FolderThen (tree : Tree) (working : Place) (output : String) (files : List GeneratedFile)
    (place : Place) : Prop :=
  tree.isFolder place = true ∨ ∃ file ∈ files, place ∈ above working (join output file.path)

/-- The file at which a write fails: the first that cannot be staged, or if all can, the first
that cannot take its place then. -/
inductive FailsAt (tree : Tree) (working : Place) (output : String) (files : List GeneratedFile)
    (file : GeneratedFile) : Prop where
  | staging {earlier later : List GeneratedFile} (listed : files = earlier ++ file :: later)
      (ables : ∀ other ∈ earlier, Stageable tree working (join output other.path))
      (unable : ¬ Stageable tree working (join output file.path))
  | settling {earlier later : List GeneratedFile} (listed : files = earlier ++ file :: later)
      (staged : ∀ other ∈ files, Stageable tree working (join output other.path))
      (ables : ∀ other ∈ earlier,
        Settleable (FolderThen tree working output files) working (join output other.path))
      (unable :
        ¬ Settleable (FolderThen tree working output files) working (join output file.path))

/-! ## Staging -/

theorem makeAbove_grows (tree : Tree) (working : Place) (path : String) :
    tree.Grown (makeAbove tree working path).1 := by
  unfold makeAbove
  split
  · exact .refl tree
  · unfold Tree.makeFolders
    split
    · exact Tree.grown_makeAlong tree (startOf working path) _
    · exact .refl tree

theorem makeAbove_ne_none_iff (tree : Tree) (working : Place) (path : String) :
    (makeAbove tree working path).2 ≠ none ↔ folderSize path ≤ longestPath ∧
      (∀ name ∈ (names path).dropLast, isNullFree name = true) ∧
      ∀ folder ∈ above working path, ¬ tree.Bars folder := by
  have made : (tree.makeAlong (startOf working path) (names path).dropLast).2 ≠ none ↔
      ∀ folder ∈ above working path, ¬ tree.Bars folder := by
    rw [ne_eq, Tree.makeAlong_eq_none_iff]
    simp [above]
  unfold makeAbove
  split
  · next long => simp [Nat.not_le.mpr long]
  · next short =>
    unfold Tree.makeFolders
    split
    · next spelled =>
      exact ⟨fun arrives => ⟨Nat.not_lt.mp short, List.all_eq_true.mp spelled, made.mp arrives⟩,
        fun ready => made.mpr ready.2.2⟩
    · next spelled =>
      exact ⟨fun none => absurd rfl none,
        fun ready => absurd (List.all_eq_true.mpr ready.2.1) spelled⟩

theorem isFolder_makeAbove {tree : Tree} {working : Place} {path : String}
    (made : (makeAbove tree working path).2 ≠ none) (place : Place) :
    (makeAbove tree working path).1.isFolder place = true ↔
      tree.isFolder place = true ∨ place ∈ above working path := by
  unfold makeAbove at made ⊢
  split at made
  · exact absurd rfl made
  · next short =>
    rw [if_neg short]
    unfold Tree.makeFolders at made ⊢
    split at made
    · next spelled =>
      rw [if_pos spelled]
      exact Tree.isFolder_makeAlong made place
    · exact absurd rfl made

section
variable {tree after : Tree} {working : Place} {output : String}

theorem stage_ok_stageable {file : GeneratedFile} {staged : Staged}
    (done : stage tree working output file = (after, .ok staged)) :
    Stageable tree working (join output file.path) ∧ tree.Grown after ∧
      ∀ place, after.isFolder place = true ↔
        tree.isFolder place = true ∨ place ∈ above working (join output file.path) := by
  obtain ⟨made, folder, arrives, room, rfl, -⟩ := stage_eq_ok done
  have grows := makeAbove_grows tree working (join output file.path)
  have ready := makeAbove_ne_none_iff tree working (join output file.path)
  have given : (makeAbove tree working (join output file.path)).2 ≠ none := by
    rw [arrives]
    exact Option.some_ne_none folder
  have folders := isFolder_makeAbove given
  obtain ⟨short, spelled, free⟩ := ready.mp given
  rw [arrives] at grows folders
  exact ⟨⟨short, spelled, free, room⟩, grows.trans (.of_entries rfl), folders⟩

theorem stage_error_not_stageable {file : GeneratedFile} {failure : Failure}
    (failed : stage tree working output file = (after, .error failure)) :
    ¬ Stageable tree working (join output file.path) ∧ tree.Grown after := by
  obtain ⟨rfl, -, cause⟩ := stage_eq_error failed
  refine ⟨fun able => ?_, makeAbove_grows tree working (join output file.path)⟩
  obtain none | long := cause
  · have ready := makeAbove_ne_none_iff tree working (join output file.path)
    exact ready.mpr ⟨able.short, able.spelled, able.free⟩ none
  · exact Nat.not_lt.mpr able.room long

/-- More folders make no difference to what can be staged. -/
theorem stageable_of_grown (grown : tree.Grown after) (path : String) :
    Stageable after working path ↔ Stageable tree working path := by
  have bars : ∀ folder, ¬ after.Bars folder ↔ ¬ tree.Bars folder := fun folder =>
    not_congr (grown.bars folder)
  constructor
  · exact fun able => { able with free := fun folder on => (bars folder).mp (able.free folder on) }
  · exact fun able => { able with free := fun folder on => (bars folder).mpr (able.free folder on) }

theorem discardAll_entries (tree : Tree) (staged : List Staged) :
    (discardAll tree staged).entries = tree.entries := by
  induction staged generalizing tree with
  | nil => rfl
  | cons file rest ih => exact ih (tree.discard file.number)

/-- Staging stops at the first file that cannot be staged. -/
theorem stageAll_stops {done : List Staged} {files : List GeneratedFile} {failure : Failure}
    (failed : stageAll working output tree done files = (after, .error failure)) :
    tree.Grown after ∧ ∃ earlier file later, files = earlier ++ file :: later ∧
      (∀ other ∈ earlier, Stageable tree working (join output other.path)) ∧
      ¬ Stageable tree working (join output file.path) ∧
      failure = .unwritable file.artifact (join output file.path) := by
  induction files generalizing tree done with
  | nil => cases failed
  | cons first rest ih =>
    rw [stageAll] at failed
    rcases result : stage tree working output first with ⟨made, other | waiting⟩
    · rw [result] at failed
      cases failed
      obtain ⟨unable, grows⟩ := stage_error_not_stageable result
      obtain ⟨-, -, -, named⟩ := stage_error result
      exact ⟨grows.trans (.of_entries (discardAll_entries made done)), [], first, rest, rfl,
        List.forall_mem_nil _, unable, named⟩
    · rw [result] at failed
      obtain ⟨able, grows, -⟩ := stage_ok_stageable result
      obtain ⟨onward, earlier, file, later, rfl, ables, unable, named⟩ := ih failed
      refine ⟨grows.trans onward, first :: earlier, file, later, rfl, ?_, ?_, named⟩
      · exact List.forall_mem_cons.mpr
          ⟨able, fun other before => (stageable_of_grown grows _).mp (ables other before)⟩
      · rwa [stageable_of_grown grows] at unable

/-- Once all files have been staged, the folders above them are there and no others are new. -/
theorem stageAll_stageable {done waiting : List Staged} {files : List GeneratedFile}
    (staged : stageAll working output tree done files = (after, .ok waiting)) :
    (∀ file ∈ files, Stageable tree working (join output file.path)) ∧
      ∀ place, after.isFolder place = true ↔ FolderThen tree working output files place := by
  induction files generalizing tree done with
  | nil =>
    cases staged
    simp [FolderThen]
  | cons first rest ih =>
    rw [stageAll] at staged
    rcases result : stage tree working output first with ⟨made, failure | next⟩
    · rw [result] at staged
      cases staged
    · rw [result] at staged
      obtain ⟨able, grows, folders⟩ := stage_ok_stageable result
      obtain ⟨ables, onward⟩ := ih staged
      refine ⟨List.forall_mem_cons.mpr
        ⟨able, fun other behind => (stageable_of_grown grows _).mp (ables other behind)⟩,
        fun place => ?_⟩
      simp only [onward, FolderThen, folders, List.mem_cons, exists_eq_or_imp, or_assoc]

end

/-! ## Committing -/

section
variable {working : Place} {output : String}

/-- Nothing but what it needs keeps a file that waits from taking its place. -/
theorem not_settleable_of_stuck {tree : Tree} {kept : List Temporary} {first : GeneratedFile × Nat}
    {rest : List (GeneratedFile × Nat)} (ready : Ready working output tree kept (first :: rest))
    (stuck : settle? tree (stagedOf working output first) = none) :
    ¬ Settleable (tree.isFolder · = true) working (join output first.1.path) := by
  intro able
  have waits : (tree.temporaries.find? (·.number = first.2)).isSome = true := by
    rw [List.find?_isSome, ready.temporaries]
    exact ⟨temporaryOf working output first, by simp, by simp [temporaryOf]⟩
  obtain ⟨temporary, found⟩ := Option.isSome_iff_exists.mp waits
  have settled : settle? tree (stagedOf working output first) = some _ := settle?_eq_some_iff.mpr
    ⟨⟨able.plain, able.short, able.allowed⟩, temporary, found, by simpa using able.free, rfl⟩
  rw [stuck] at settled
  cases settled

/-- A file that takes its place leaves the folders as they are. -/
theorem settleable_of_settled {tree after : Tree} {waiting : GeneratedFile × Nat}
    (settled : settle? tree (stagedOf working output waiting) = some after) :
    Settleable (tree.isFolder · = true) working (join output waiting.1.path) ∧
      after.isFolder = tree.isFolder := by
  obtain ⟨⟨plain, short, allowed⟩, temporary, -, free, rfl⟩ := settle?_eq_some_iff.mp settled
  exact ⟨⟨plain, short, allowed, by simp [free]⟩,
    Tree.isFolder_put_file (destination_ne_nil plain) free _⟩

/-- Giving back what destinations held leaves the folders as they are. -/
theorem isFolder_rollback {tree : Tree} {done : List Committed}
    (files : ∀ file ∈ done, file.place ≠ [] ∧ tree.isFolder file.place = false) :
    (rollback tree done).isFolder = tree.isFolder := by
  induction done generalizing tree with
  | nil => rfl
  | cons file rest ih =>
    obtain ⟨⟨inside, free⟩, others⟩ := List.forall_mem_cons.mp files
    rw [rollback]
    cases file.previous with
    | none =>
      have same := Tree.isFolder_erase inside free
      rw [← same] at others ⊢
      exact ih others
    | some bytes =>
      have same := Tree.isFolder_put_file inside free bytes
      rw [← same] at others ⊢
      exact ih others

/-- A commit stops at the first file that cannot take its place. -/
theorem commit_stops {tree after : Tree} {kept : List Temporary} {done : List Committed}
    {waiting : List (GeneratedFile × Nat)} {failure : Failure}
    (files : ∀ file ∈ done, file.place ≠ [] ∧ tree.isFolder file.place = false)
    (ready : Ready working output tree kept waiting)
    (failed : commit tree done (waiting.map (stagedOf working output)) =
      (after, .error failure)) :
    after.isFolder = tree.isFolder ∧
      ∃ earlier file later, waiting.map (·.1) = earlier ++ file :: later ∧
        (∀ other ∈ earlier,
          Settleable (tree.isFolder · = true) working (join output other.path)) ∧
        ¬ Settleable (tree.isFolder · = true) working (join output file.path) ∧
        failure = .unwritable file.artifact (join output file.path) := by
  induction waiting generalizing tree done with
  | nil => cases failed
  | cons first rest ih =>
    rw [List.map_cons, commit] at failed
    split at failed
    · next settled result =>
      obtain ⟨next, place, -⟩ := ready.settle result
      obtain ⟨able, same⟩ := settleable_of_settled result
      have free : tree.isFolder (destination working (join output first.1.path)) = false := by
        simpa using able.free
      rw [← same] at files free able ⊢
      obtain ⟨folders, earlier, file, later, split, ables, unable, named⟩ := ih
        (List.forall_mem_cons.mpr ⟨⟨by simp, by rw [place]; exact free⟩, files⟩) next failed
      exact ⟨folders, first.1 :: earlier, file, later, congrArg (first.1 :: ·) split,
        List.forall_mem_cons.mpr ⟨able, ables⟩, unable, named⟩
    · next stuck =>
      cases failed
      refine ⟨?_, [], first.1, rest.map (·.1), rfl, List.forall_mem_nil _,
        not_settleable_of_stuck ready stuck, rfl⟩
      rw [Tree.isFolder_of_entries (discardAll_entries _ _), isFolder_rollback files]

/-- Once a commit is done, every file has taken its place. -/
theorem commit_settleable {tree after : Tree} {done : List Committed}
    {waiting : List (GeneratedFile × Nat)}
    (committed : commit tree done (waiting.map (stagedOf working output)) = (after, .ok ())) :
    after.isFolder = tree.isFolder ∧ ∀ file ∈ waiting.map (·.1),
      Settleable (tree.isFolder · = true) working (join output file.path) := by
  induction waiting generalizing tree done with
  | nil =>
    cases committed
    exact ⟨rfl, nofun⟩
  | cons first rest ih =>
    rw [List.map_cons, commit] at committed
    split at committed
    · next settled result =>
      obtain ⟨able, same⟩ := settleable_of_settled result
      obtain ⟨folders, ables⟩ := ih committed
      rw [same] at folders ables
      exact ⟨folders, List.forall_mem_cons.mpr ⟨able, ables⟩⟩
    · cases committed

/-! ## Writing -/

/-- Once all files are staged, the folders are those that were there and those above them. -/
theorem isFolder_staged {tree staged : Tree} {files : List GeneratedFile} {waiting : List Staged}
    (result : stageAll working output tree [] files = (staged, .ok waiting)) :
    (staged.isFolder · = true) = FolderThen tree working output files :=
  funext fun place => propext ((stageAll_stageable result).2 place)

/-- A write that fails takes away no folder and names the file at which it fails. -/
theorem writeAll_stops {tree after : Tree} {files : List GeneratedFile} {failure : Failure}
    (known : Numbered tree)
    (failed : writeAll tree working output files = (after, .error failure)) :
    (∀ place, tree.isFolder place = true → after.isFolder place = true) ∧
      ∃ file, FailsAt tree working output files file ∧
        failure = .unwritable file.artifact (join output file.path) := by
  obtain result | ⟨staged, waiting, result, stopped⟩ := writeAll_eq_error failed
  · obtain ⟨grown, earlier, file, later, listed, ables, unable, named⟩ := stageAll_stops result
    exact ⟨grown.folders, file, .staging listed ables unable, named⟩
  · obtain ⟨able, folders⟩ := stageAll_stageable result
    obtain ⟨same, earlier, file, later, listed, ables, unable, named⟩ :=
      commit_stops (by simp) (ready_of_stageAll known result) stopped
    rw [List.zipIdx_map_fst] at listed
    rw [isFolder_staged result] at ables unable
    refine ⟨fun place there => ?_, file, .settling listed able ables unable, named⟩
    rw [same]
    exact (folders place).mpr (.inl there)

/-- A write that succeeds takes away no folder, and nothing was in the way of any file. -/
theorem writeAll_settles {tree after : Tree} {files : List GeneratedFile} {paths : List String}
    (done : writeAll tree working output files = (after, .ok paths)) :
    (∀ place, after.isFolder place = true ↔ FolderThen tree working output files place) ∧
      ∀ file ∈ files, Stageable tree working (join output file.path) ∧
        Settleable (FolderThen tree working output files) working (join output file.path) := by
  obtain ⟨staged, waiting, result, committed, -⟩ := writeAll_eq_ok done
  obtain ⟨able, folders⟩ := stageAll_stageable result
  obtain ⟨same, ables⟩ := commit_settleable committed
  rw [List.zipIdx_map_fst, isFolder_staged result] at ables
  refine ⟨fun place => ?_, fun file listed => ⟨able file listed, ables file listed⟩⟩
  rw [same]
  exact folders place

end

/-- Writing files is all or nothing, whatever is below the output folder and wherever the
files go. If it fails, every file holds what it held, no file is new and no temporary file
stays; at most there are more folders. The failure names the first file that could not be
staged, or else the first that could not take its place. If it succeeds, each destination
holds what was listed last for it, every other file is as it was, no temporary file stays,
the destinations are given in the order of the list, and nothing was in the way of any file. -/
theorem write_is_all_or_nothing (tree : Tree) (working : Place) (output : String)
    (files : List GeneratedFile) (known : Numbered tree) :
    (∀ after failure, writeAll tree working output files = (after, .error failure) →
      (∀ place, after.contents? place = tree.contents? place) ∧
      after.temporaries = tree.temporaries ∧
      (∀ place, tree.isFolder place = true → after.isFolder place = true) ∧
      ∃ file, FailsAt tree working output files file ∧
        failure = .unwritable file.artifact (join output file.path)) ∧
    (∀ after paths, writeAll tree working output files = (after, .ok paths) →
      (∀ earlier file later, files = earlier ++ file :: later →
        (∀ other ∈ later, destination working (join output other.path) ≠
          destination working (join output file.path)) →
        after.contents? (destination working (join output file.path)) =
          some file.contents.toUTF8) ∧
      (∀ place, (∀ file ∈ files, destination working (join output file.path) ≠ place) →
        after.contents? place = tree.contents? place) ∧
      after.temporaries = tree.temporaries ∧
      (∀ place, after.isFolder place = true ↔ FolderThen tree working output files place) ∧
      paths = files.map (join output ·.path) ∧
      ∀ file ∈ files, Stageable tree working (join output file.path) ∧
        Settleable (FolderThen tree working output files) working (join output file.path)) := by
  refine ⟨fun after failure failed => ?_, fun after paths done => ?_⟩
  · obtain ⟨held, temporaries, -⟩ := writeAll_error known failed
    obtain ⟨folders, at'⟩ := writeAll_stops known failed
    exact ⟨fun place => congrFun held place, temporaries, folders, at'⟩
  · obtain ⟨held, temporaries, -, given⟩ := writeAll_ok known done
    obtain ⟨folders, able⟩ := writeAll_settles done
    refine ⟨fun earlier file later listed last => ?_, fun place apart => ?_, temporaries, folders,
      given, able⟩
    · rw [held, listed, List.map_append, List.map_cons, overwritten_append]
      refine overwritten_first fun write member => ?_
      obtain ⟨other, behind, rfl⟩ := List.mem_map.mp member
      exact last other behind
    · rw [held]
      refine overwritten_of_not_mem fun write member => ?_
      obtain ⟨file, listed, rfl⟩ := List.mem_map.mp member
      exact apart file listed

/-- A file that is there already, and one that is listed twice. -/
def bench : Tree :=
  ⟨[(["out"], .folder), (["out", "a"], .file "old".toUTF8)], [], 0⟩

def sheets : List GeneratedFile :=
  [⟨.bootstrap, "a", "first"⟩, ⟨.descriptor, "a", "second"⟩, ⟨.bootstrap, "b/c", "third"⟩]

/-- The folder above a sheet takes the place that this one needs. -/
def lid : GeneratedFile :=
  ⟨.descriptor, "b", "fourth"⟩

theorem bench_is_all_or_nothing :
    (∃ after failure, writeAll bench [] "out" (sheets ++ [lid]) = (after, .error failure) ∧
      after.contents? ["out", "a"] = bench.contents? ["out", "a"] ∧
      after.contents? ["out", "b", "c"] = none ∧ after.temporaries = [] ∧
      ∃ file, FailsAt bench [] "out" (sheets ++ [lid]) file ∧
        failure = .unwritable file.artifact (join "out" file.path)) ∧
    ∃ after paths, writeAll bench [] "out" sheets = (after, .ok paths) ∧
      after.contents? ["out", "a"] = some "second".toUTF8 ∧ after.temporaries = [] ∧
      paths = ["out/a", "out/a", "out/b/c"] := by
  constructor
  · have fails : (writeAll bench [] "out" (sheets ++ [lid])).2.toBool = false := by decide +kernel
    rcases result : writeAll bench [] "out" (sheets ++ [lid]) with ⟨after, failure | paths⟩
    · obtain ⟨held, temporaries, -, at'⟩ :=
        (write_is_all_or_nothing bench [] "out" (sheets ++ [lid]) nofun).1 after failure result
      exact ⟨after, failure, rfl, held _, held _, temporaries, at'⟩
    · rw [result] at fails
      cases fails
  · have works : (writeAll bench [] "out" sheets).2.toBool = true := by decide +kernel
    rcases result : writeAll bench [] "out" sheets with ⟨after, failure | paths⟩
    · rw [result] at works
      cases works
    · obtain ⟨last, -, temporaries, -, given, -⟩ :=
        (write_is_all_or_nothing bench [] "out" sheets nofun).2 after paths result
      have place : destination [] (join "out" "a") = ["out", "a"] := by decide +kernel
      have wins := last [⟨.bootstrap, "a", "first"⟩] ⟨.descriptor, "a", "second"⟩
        [⟨.bootstrap, "b/c", "third"⟩] rfl (by decide +kernel)
      refine ⟨after, paths, rfl, ?_, temporaries, given.trans (by decide +kernel)⟩
      rwa [place] at wins

end PluginBridge.Build
