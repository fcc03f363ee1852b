import PluginBridge.Build.Write
import PluginBridge.Proofs.Files.Tree

/-! Writing files all or none. A write that fails leaves what files hold as it was; one
that succeeds changes it at the destinations alone, where the last file wins. Either way
no temporary file stays. -/
namespace PluginBridge.Build
open Files

/-- Every temporary file has a number that was given out. -/
def Numbered (tree : Tree) : Prop :=
  ∀ temporary ∈ tree.temporaries, temporary.number < tree.next

/-! ## Staging -/

/-- The folder that a path starts from. -/
def startOf (working : Place) (path : String) : Place :=
  if isAbsolute path then [] else working

/-- A file as it waits under a number. -/
def stagedOf (working : Place) (output : String) (waiting : GeneratedFile × Nat) : Staged :=
  let path := join output waiting.1.path
  ⟨waiting.1.artifact, path, (startOf working path).along (names path).dropLast,
    (names path).getLast?.getD "", waiting.2⟩

/-- The temporary file in which a file waits. -/
def temporaryOf (working : Place) (output : String) (waiting : GeneratedFile × Nat) : Temporary :=
  ⟨waiting.2, (stagedOf working output waiting).folder, waiting.1.contents.toUTF8⟩

section
variable {tree after : Tree} {working : Place} {output : String} {file : GeneratedFile}

/-- Making the folders above a path leaves alone what files hold. -/
theorem makeAbove_keeps (tree : Tree) (working : Place) (path : String) :
    (makeAbove tree working path).1.contents? = tree.contents? ∧
      (makeAbove tree working path).1.temporaries = tree.temporaries ∧
      (makeAbove tree working path).1.next = tree.next ∧
      ∀ folder ∈ (makeAbove tree working path).2,
        folder = (startOf working path).along (names path).dropLast := by
  unfold makeAbove
  split
  · simp
  · unfold Tree.makeFolders
    split
    · exact Tree.makeAlong_keeps tree (startOf working path) _
    · simp

/-- A file that is not staged leaves the folders that were made for it. -/
theorem stage_eq_error {failure : Failure}
    (failed : stage tree working output file = (after, .error failure)) :
    after = (makeAbove tree working (join output file.path)).1 ∧
      failure = .unwritable file.artifact (join output file.path) ∧
      ((makeAbove tree working (join output file.path)).2 = none ∨
        longestPath < temporarySize working (join output file.path)) := by
  unfold stage at failed
  dsimp only at failed
  split at failed
  · next made none =>
    cases failed
    rw [none]
    exact ⟨rfl, rfl, .inl rfl⟩
  · next made folder arrives =>
    rw [arrives]
    split at failed
    · next long =>
      cases failed
      exact ⟨rfl, rfl, .inr long⟩
    · cases failed

/-- A file is staged in the folder that was made for it. -/
theorem stage_eq_ok {staged : Staged}
    (done : stage tree working output file = (after, .ok staged)) :
    ∃ made folder, makeAbove tree working (join output file.path) = (made, some folder) ∧
      temporarySize working (join output file.path) ≤ longestPath ∧
      after = (made.createTemporary folder file.contents.toUTF8).2 ∧
      staged = ⟨file.artifact, join output file.path, folder,
        (names (join output file.path)).getLast?.getD "", made.next⟩ := by
  unfold stage at done
  dsimp only at done
  split at done
  · cases done
  · next made folder arrives =>
    split at done
    · cases done
    · next short =>
      cases done
      exact ⟨made, folder, arrives, Nat.not_lt.mp short, rfl, rfl⟩

theorem stage_error {failure : Failure}
    (failed : stage tree working output file = (after, .error failure)) :
    after.contents? = tree.contents? ∧ after.temporaries = tree.temporaries ∧
      after.next = tree.next ∧ failure = .unwritable file.artifact (join output file.path) := by
  obtain ⟨held, waiting, number, -⟩ := makeAbove_keeps tree working (join output file.path)
  obtain ⟨rfl, named, -⟩ := stage_eq_error failed
  exact ⟨held, waiting, number, named⟩

theorem stage_ok {staged : Staged} (done : stage tree working output file = (after, .ok staged)) :
    staged = stagedOf working output (file, tree.next) ∧ after.contents? = tree.contents? ∧
      after.temporaries =
        tree.temporaries ++ [temporaryOf working output (file, tree.next)] ∧
      after.next = tree.next + 1 := by
  obtain ⟨held, waiting, number, arrives⟩ := makeAbove_keeps tree working (join output file.path)
  obtain ⟨made, folder, above, -, rfl, rfl⟩ := stage_eq_ok done
  rw [above] at held waiting number arrives
  obtain rfl := arrives folder rfl
  rw [← number, ← waiting]
  exact ⟨rfl, held, rfl, rfl⟩

end

/-- Without the temporary files of some staged files. -/
theorem discardAll_temporaries (tree : Tree) (staged : List Staged) :
    (discardAll tree staged).temporaries =
      tree.temporaries.filter fun temporary => temporary.number ∉ staged.map (·.number) := by
  induction staged generalizing tree with
  | nil => exact (List.filter_eq_self.mpr (by simp)).symm
  | cons file rest ih =>
    rw [discardAll, List.foldl_cons, ← discardAll, ih, Tree.discard, List.filter_filter]
    refine List.filter_congr fun temporary _ => ?_
    rw [Bool.eq_iff_iff]
    simp [not_or, and_comm]

theorem discardAll_keeps (tree : Tree) (staged : List Staged) :
    (discardAll tree staged).contents? = tree.contents? ∧
      (discardAll tree staged).next = tree.next := by
  induction staged generalizing tree with
  | nil => exact ⟨rfl, rfl⟩
  | cons file rest ih => exact ih (tree.discard file.number)

/-- Staging that fails throws away what was staged: a new number is higher than those that were
given out before, so that nothing else goes. -/
theorem stageAll_error {working : Place} {output : String} {tree after : Tree}
    {done : List Staged} {files : List GeneratedFile} {failure : Failure} (known : Numbered tree)
    (failed : stageAll working output tree done files = (after, .error failure)) :
    after.contents? = tree.contents? ∧
      after.temporaries = tree.temporaries.filter (fun temporary =>
        temporary.number ∉ done.map (·.number)) ∧
      tree.next ≤ after.next ∧
      ∃ file ∈ files, failure = .unwritable file.artifact (join output file.path) := by
  induction files generalizing tree done with
  | nil => cases failed
  | cons file rest ih =>
    rw [stageAll] at failed
    rcases result : stage tree working output file with ⟨staged, other | waiting⟩
    · rw [result] at failed
      cases failed
      obtain ⟨held, temporaries, number, same⟩ := stage_error result
      obtain ⟨kept, last⟩ := discardAll_keeps staged done
      refine ⟨kept.trans held, ?_, Nat.le_of_eq (last.trans number).symm, file, by simp, same⟩
      rw [discardAll_temporaries, temporaries]
    · rw [result] at failed
      obtain ⟨rfl, held, temporaries, number⟩ := stage_ok result
      have knows : Numbered staged := by
        intro temporary there
        rw [temporaries, List.mem_append, List.mem_singleton] at there
        rw [number]
        obtain old | rfl := there
        · exact Nat.lt_succ_of_lt (known temporary old)
        · exact Nat.lt_succ_self _
      obtain ⟨kept, left, later, at', member, same⟩ := ih knows failed
      have onward : tree.next ≤ staged.next := number.symm ▸ Nat.le_succ _
      refine ⟨kept.trans held, ?_, Nat.le_trans onward later, at',
        List.mem_cons_of_mem _ member, same⟩
      rw [left, temporaries, List.filter_append, List.map_append]
      have new : [temporaryOf working output (file, tree.next)].filter (fun temporary =>
          temporary.number ∉ done.map (·.number) ++
            [stagedOf working output (file, tree.next)].map (·.number)) = [] := by
        simp [temporaryOf, stagedOf]
      rw [new, List.append_nil]
      refine List.filter_congr fun temporary there => ?_
      have older : temporary.number ≠ tree.next := Nat.ne_of_lt (known temporary there)
      simp [stagedOf, older]

/-- The files that were staged wait in temporary files, numbered one after another. -/
theorem stageAll_ok {working : Place} {output : String} {tree after : Tree}
    {done waiting : List Staged} {files : List GeneratedFile}
    (staged : stageAll working output tree done files = (after, .ok waiting)) :
    waiting = done ++ (files.zipIdx tree.next).map (stagedOf working output) ∧
      after.contents? = tree.contents? ∧
      after.temporaries =
        tree.temporaries ++ (files.zipIdx tree.next).map (temporaryOf working output) ∧
      after.next = tree.next + files.length := by
  induction files generalizing tree done with
  | nil =>
    cases staged
    simp
  | cons file rest ih =>
    rw [stageAll] at staged
    rcases result : stage tree working output file with ⟨made, failure | first⟩
    · rw [result] at staged
      cases staged
    · rw [result] at staged
      obtain ⟨rfl, held, temporaries, number⟩ := stage_ok result
      obtain ⟨rfl, kept, left, last⟩ := ih staged
      refine ⟨?_, kept.trans held, ?_, ?_⟩
      · simp [number]
      · simp [left, temporaries, number]
      · simp only [last, number, List.length_cons]
        omega

/-! ## Committing -/

/-- What places hold once files are written there one after another. -/
def overwritten (writes : List (Place × ByteArray)) (held : Place → Option ByteArray) :
    Place → Option ByteArray :=
  writes.foldl (fun held write => Function.update held write.1 (some write.2)) held

theorem overwritten_append (first second : List (Place × ByteArray))
    (held : Place → Option ByteArray) :
    overwritten (first ++ second) held = overwritten second (overwritten first held) :=
  List.foldl_append ..

/-- A place that is no destination holds what it held before. -/
theorem overwritten_of_not_mem {writes : List (Place × ByteArray)}
    {held : Place → Option ByteArray} {place : Place}
    (apart : ∀ write ∈ writes, write.1 ≠ place) : overwritten writes held place = held place := by
  induction writes generalizing held with
  | nil => rfl
  | cons first rest ih =>
    obtain ⟨other, others⟩ := List.forall_mem_cons.mp apart
    rw [overwritten, List.foldl_cons, ← overwritten, ih others,
      Function.update_of_ne (Ne.symm other)]

/-- A place holds what is written there first, if nothing is written there afterwards. -/
theorem overwritten_first {write : Place × ByteArray} {others : List (Place × ByteArray)}
    {held : Place → Option ByteArray} (apart : ∀ other ∈ others, other.1 ≠ write.1) :
    overwritten (write :: others) held write.1 = some write.2 := by
  rw [overwritten, List.foldl_cons, ← overwritten, overwritten_of_not_mem apart,
    Function.update_self]

/-- The place of a destination. -/
def destination (working : Place) (path : String) : Place :=
  (startOf working path).along (names path)

/-- What a file writes, and where. -/
def writeOf (working : Place) (output : String) (file : GeneratedFile) : Place × ByteArray :=
  (destination working (join output file.path), file.contents.toUTF8)

/-- The last name of a path that cannot be that of a folder is a name, and no way back. -/
theorem names_eq_of_namesFolder {path : String} (plain : namesFolder path = false) :
    (names path).getLast?.getD "" ≠ ".." ∧
      names path = (names path).dropLast ++ [(names path).getLast?.getD ""] := by
  unfold namesFolder at plain
  split at plain
  · next last found =>
    obtain ⟨moves, forward⟩ := Bool.or_eq_false_iff.mp plain
    obtain ⟨front, pieces⟩ := List.getLast?_eq_some_iff.mp found
    have same : names path = (front.filter fun name => !standsStill name) ++ [last] := by
      rw [names, pieces, List.filter_append, List.filter_cons_of_pos (by simp [moves])]
      rfl
    rw [same, List.getLast?_concat, List.dropLast_concat]
    exact ⟨by simpa using forward, rfl⟩
  · cases plain

section
variable {working : Place} {output : String}

theorem stagedOf_place {waiting : GeneratedFile × Nat}
    (plain : namesFolder (join output waiting.1.path) = false) :
    (stagedOf working output waiting).folder ++ [(stagedOf working output waiting).name] =
      destination working (join output waiting.1.path) := by
  obtain ⟨forward, same⟩ := names_eq_of_namesFolder plain
  dsimp only [stagedOf]
  rw [destination, ← Place.along_plain _ (by simpa using forward.symm), ← Place.along_append,
    ← same]

theorem destination_ne_nil {path : String} (plain : namesFolder path = false) :
    destination working path ≠ [] := by
  obtain ⟨forward, same⟩ := names_eq_of_namesFolder plain
  rw [destination, same, Place.along_append, Place.along_plain _ (by simpa using forward.symm)]
  simp

/-- A file that waits can take its place if its path is one of a file and no folder is there. -/
theorem settle?_eq_some_iff {tree after : Tree} {waiting : GeneratedFile × Nat} :
    settle? tree (stagedOf working output waiting) = some after ↔
      (namesFolder (join output waiting.1.path) = false ∧
        fits (join output waiting.1.path) = true ∧
        allowsName ((names (join output waiting.1.path)).getLast?.getD "") = true) ∧
      ∃ temporary, tree.temporaries.find? (·.number = waiting.2) = some temporary ∧
        tree.isFolder (destination working (join output waiting.1.path)) = false ∧
        (tree.discard waiting.2).put (destination working (join output waiting.1.path))
          (.file temporary.contents) = after := by
  have refused : (namesFolder (stagedOf working output waiting).path ||
      !fits (stagedOf working output waiting).path ||
      !allowsName (stagedOf working output waiting).name) = false ↔
      namesFolder (join output waiting.1.path) = false ∧
        fits (join output waiting.1.path) = true ∧
        allowsName ((names (join output waiting.1.path)).getLast?.getD "") = true := by
    simp [stagedOf, and_assoc]
  unfold settle?
  split
  · next outside =>
    rw [← refused, outside]
    simp
  · next inside =>
    have plain := refused.mp (Bool.not_eq_true _ ▸ inside)
    have number : (stagedOf working output waiting).number = waiting.2 := rfl
    rw [Tree.settle?, stagedOf_place plain.1, number, and_iff_right plain]
    cases tree.temporaries.find? (·.number = waiting.2) with
    | none => simp
    | some temporary =>
      cases tree.isFolder (destination working (join output waiting.1.path)) <;> simp

/-- A file that settles changes what its destination holds, and no longer waits. -/
theorem settle?_keeps {tree after : Tree} {kept rest : List Temporary}
    {waiting : GeneratedFile × Nat}
    (there : tree.temporaries = kept ++ temporaryOf working output waiting :: rest)
    (before : ∀ temporary ∈ kept, temporary.number ≠ waiting.2)
    (behind : ∀ temporary ∈ rest, temporary.number ≠ waiting.2)
    (settled : settle? tree (stagedOf working output waiting) = some after) :
    (stagedOf working output waiting).folder ++ [(stagedOf working output waiting).name] =
        (writeOf working output waiting.1).1 ∧
      after.contents? = Function.update tree.contents? (writeOf working output waiting.1).1
        (some (writeOf working output waiting.1).2) ∧
      after.temporaries = kept ++ rest ∧ after.next = tree.next := by
  have left : tree.temporaries.filter (·.number ≠ waiting.2) = kept ++ rest := by
    rw [there, List.filter_append, List.filter_cons_of_neg (by simp [temporaryOf]),
      List.filter_eq_self.mpr (by simpa using before),
      List.filter_eq_self.mpr (by simpa using behind)]
  obtain ⟨⟨plain, -⟩, temporary, found, -, rfl⟩ := settle?_eq_some_iff.mp settled
  rw [there, List.find?_append, List.find?_eq_none.mpr (by simpa using before)] at found
  obtain rfl : temporaryOf working output waiting = temporary := by
    simpa [temporaryOf] using found
  exact ⟨stagedOf_place plain, Tree.contents?_put_file (destination_ne_nil plain) _ _, left, rfl⟩

/-- What places hold once what they held before is given back. -/
def restored (done : List Committed) (held : Place → Option ByteArray) :
    Place → Option ByteArray :=
  done.foldl (fun held file => Function.update held file.place file.previous) held

theorem rollback_keeps {done : List Committed} (inside : ∀ file ∈ done, file.place ≠ [])
    (tree : Tree) : (rollback tree done).contents? = restored done tree.contents? ∧
      (rollback tree done).temporaries = tree.temporaries ∧
      (rollback tree done).next = tree.next := by
  induction done generalizing tree with
  | nil => exact ⟨rfl, rfl, rfl⟩
  | cons file rest ih =>
    obtain ⟨first, others⟩ := List.forall_mem_cons.mp inside
    rw [rollback, restored, List.foldl_cons, ← restored]
    cases previous : file.previous with
    | none =>
      rw [← Tree.contents?_erase first]
      exact ih others (tree.erase file.place)
    | some bytes =>
      rw [← Tree.contents?_put_file first]
      exact ih others (tree.put file.place (.file bytes))

/-- Files wait for a commit in their temporary files, apart from others. -/
structure Ready (working : Place) (output : String) (tree : Tree) (kept : List Temporary)
    (waiting : List (GeneratedFile × Nat)) : Prop where
  temporaries : tree.temporaries = kept ++ waiting.map (temporaryOf working output)
  distinct : (waiting.map (·.2)).Nodup
  apart : ∀ temporary ∈ kept, temporary.number ∉ waiting.map (·.2)

/-- The first of the waiting files settles. -/
theorem Ready.settle {tree after : Tree} {kept : List Temporary} {first : GeneratedFile × Nat}
    {rest : List (GeneratedFile × Nat)} (ready : Ready working output tree kept (first :: rest))
    (settled : Build.settle? tree (stagedOf working output first) = some after) :
    Ready working output after kept rest ∧
      (stagedOf working output first).folder ++ [(stagedOf working output first).name] =
        (writeOf working output first.1).1 ∧
      after.contents? = Function.update tree.contents? (writeOf working output first.1).1
        (some (writeOf working output first.1).2) ∧ after.next = tree.next := by
  obtain ⟨temporaries, distinct, apart⟩ := ready
  obtain ⟨fresh, others⟩ := List.nodup_cons.mp distinct
  have before (temporary : Temporary) (old : temporary ∈ kept) :
      temporary.number ≠ first.2 ∧ temporary.number ∉ rest.map (·.2) := by
    simpa using apart temporary old
  have behind : ∀ temporary ∈ rest.map (temporaryOf working output),
      temporary.number ≠ first.2 := by
    intro temporary member same
    obtain ⟨other, inside, rfl⟩ := List.mem_map.mp member
    exact fresh (List.mem_map.mpr ⟨other, inside, same⟩)
  obtain ⟨place, held, left, number⟩ :=
    settle?_keeps temporaries (fun temporary old => (before temporary old).1) behind settled
  exact ⟨⟨left, others, fun temporary old => (before temporary old).2⟩, place, held, number⟩

/-- A commit that fails gives back what it has read, which undoes one settled file after another. -/
theorem commit_error {tree after : Tree} {kept : List Temporary} {done : List Committed}
    {waiting : List (GeneratedFile × Nat)} {failure : Failure}
    (inside : ∀ file ∈ done, file.place ≠ []) (ready : Ready working output tree kept waiting)
    (failed : commit tree done (waiting.map (stagedOf working output)) =
      (after, .error failure)) :
    after.contents? = restored done tree.contents? ∧ after.temporaries = kept ∧
      after.next = tree.next ∧ ∃ file ∈ waiting.map (·.1),
        failure = .unwritable file.artifact (join output file.path) := by
  induction waiting generalizing tree done with
  | nil => cases failed
  | cons first rest ih =>
    rw [List.map_cons, commit] at failed
    split at failed
    · next settled result =>
      obtain ⟨next, place, held, number⟩ := ready.settle result
      obtain ⟨kept, left, last, file, member, same⟩ :=
        ih (List.forall_mem_cons.mpr ⟨by simp, inside⟩) next failed
      refine ⟨?_, left, last.trans number, file, List.mem_cons_of_mem _ member, same⟩
      rw [kept, restored, List.foldl_cons, ← restored, held, place, Function.update_idem,
        Function.update_eq_self]
    · cases failed
      obtain ⟨held, temporaries, number⟩ := rollback_keeps inside tree
      obtain ⟨kept, last⟩ := discardAll_keeps (rollback tree done)
        (stagedOf working output first :: rest.map (stagedOf working output))
      refine ⟨kept.trans held, ?_, last.trans number, first.1, by simp, rfl⟩
      have numbers : (stagedOf working output first :: rest.map (stagedOf working output)).map
          (·.number) = (first :: rest).map (·.2) := by
        simp [stagedOf]
      rw [discardAll_temporaries, temporaries, ready.temporaries, List.filter_append, numbers,
        List.filter_eq_self.mpr (by simpa using ready.apart), List.filter_eq_nil_iff.mpr,
        List.append_nil]
      intro temporary member
      obtain ⟨other, listed, rfl⟩ := List.mem_map.mp member
      have number : (temporaryOf working output other).number ∈ (first :: rest).map (·.2) :=
        List.mem_map.mpr ⟨other, listed, rfl⟩
      simpa only [decide_eq_true_eq, not_not] using number

/-- Once all files have settled, their destinations hold them, and a file that comes later
wins. -/
theorem commit_ok {tree after : Tree} {kept : List Temporary} {done : List Committed}
    {waiting : List (GeneratedFile × Nat)} (ready : Ready working output tree kept waiting)
    (committed : commit tree done (waiting.map (stagedOf working output)) = (after, .ok ())) :
    after.contents? = overwritten (waiting.map (writeOf working output ·.1)) tree.contents? ∧
      after.temporaries = kept ∧ after.next = tree.next := by
  induction waiting generalizing tree done with
  | nil =>
    cases committed
    exact ⟨rfl, by simpa using ready.temporaries, rfl⟩
  | cons first rest ih =>
    rw [List.map_cons, commit] at committed
    split at committed
    · next settled result =>
      obtain ⟨next, -, held, number⟩ := ready.settle result
      obtain ⟨kept, left, last⟩ := ih next committed
      refine ⟨?_, left, last.trans number⟩
      rw [kept, held]
      rfl
    · cases committed

/-! ## Writing -/

theorem map_zipIdx {α : Type} (files : List GeneratedFile) (number : Nat)
    (part : GeneratedFile → α) : (files.zipIdx number).map (part ·.1) = files.map part :=
  List.map_map.symm.trans (congrArg (List.map part) (List.zipIdx_map_fst number files))

/-- Files that were staged from the beginning are ready for a commit. -/
theorem ready_of_stageAll {tree after : Tree} {waiting : List Staged}
    {files : List GeneratedFile} (known : Numbered tree)
    (staged : stageAll working output tree [] files = (after, .ok waiting)) :
    Ready working output after tree.temporaries (files.zipIdx tree.next) := by
  obtain ⟨-, -, temporaries, -⟩ := stageAll_ok staged
  have numbers : (files.zipIdx tree.next).map (·.2) = List.range' tree.next files.length :=
    List.zipIdx_map_snd tree.next files
  refine ⟨temporaries, numbers ▸ List.nodup_range', fun temporary old => ?_⟩
  rw [numbers, List.mem_range'_1]
  exact fun ⟨above, _⟩ => Nat.lt_irrefl _ (Nat.lt_of_lt_of_le (known temporary old) above)

/-- A write fails while files are staged, or once all of them wait. -/
theorem writeAll_eq_error {tree after : Tree} {files : List GeneratedFile} {failure : Failure}
    (failed : writeAll tree working output files = (after, .error failure)) :
    stageAll working output tree [] files = (after, .error failure) ∨
      ∃ staged waiting, stageAll working output tree [] files = (staged, .ok waiting) ∧
        commit staged [] ((files.zipIdx tree.next).map (stagedOf working output)) =
          (after, .error failure) := by
  unfold writeAll at failed
  split at failed
  · next staged other result =>
    cases failed
    exact .inl result
  · next staged waiting result =>
    obtain ⟨rfl, -⟩ := stageAll_ok result
    split at failed
    · next final other stopped =>
      cases failed
      exact .inr ⟨staged, _, result, stopped⟩
    · cases failed

/-- A write that succeeds has staged all files and then settled them. -/
theorem writeAll_eq_ok {tree after : Tree} {files : List GeneratedFile} {paths : List String}
    (done : writeAll tree working output files = (after, .ok paths)) :
    ∃ staged waiting, stageAll working output tree [] files = (staged, .ok waiting) ∧
      commit staged [] ((files.zipIdx tree.next).map (stagedOf working output)) =
        (after, .ok ()) ∧
      paths = files.map (join output ·.path) := by
  unfold writeAll at done
  split at done
  · cases done
  · next staged waiting result =>
    obtain ⟨rfl, -⟩ := stageAll_ok result
    split at done
    · cases done
    · next final committed =>
      cases done
      refine ⟨staged, _, result, committed, ?_⟩
      rw [List.nil_append, List.map_map]
      exact map_zipIdx files tree.next (join output ·.path)

/-- A write that fails leaves what files hold as it was, and says at which file it failed. -/
theorem writeAll_error {tree after : Tree} {files : List GeneratedFile} {failure : Failure}
    (known : Numbered tree)
    (failed : writeAll tree working output files = (after, .error failure)) :
    after.contents? = tree.contents? ∧ after.temporaries = tree.temporaries ∧
      tree.next ≤ after.next ∧
      ∃ file ∈ files, failure = .unwritable file.artifact (join output file.path) := by
  obtain result | ⟨staged, waiting, result, stopped⟩ := writeAll_eq_error failed
  · obtain ⟨held, temporaries, number, named⟩ := stageAll_error known result
    exact ⟨held, temporaries.trans (List.filter_eq_self.mpr (by simp)), number, named⟩
  · obtain ⟨-, held, -, number⟩ := stageAll_ok result
    obtain ⟨kept, temporaries, last, file, member, same⟩ :=
      commit_error (by simp) (ready_of_stageAll known result) stopped
    rw [List.zipIdx_map_fst] at member
    exact ⟨kept.trans held, temporaries, by omega, file, member, same⟩

/-- A write that succeeds leaves each file at its destination, where the last one wins, and
everything else as it was. -/
theorem writeAll_ok {tree after : Tree} {files : List GeneratedFile} {paths : List String}
    (known : Numbered tree)
    (done : writeAll tree working output files = (after, .ok paths)) :
    after.contents? = overwritten (files.map (writeOf working output)) tree.contents? ∧
      after.temporaries = tree.temporaries ∧ tree.next ≤ after.next ∧
      paths = files.map (join output ·.path) := by
  obtain ⟨staged, waiting, result, committed, given⟩ := writeAll_eq_ok done
  obtain ⟨-, held, -, number⟩ := stageAll_ok result
  obtain ⟨kept, temporaries, last⟩ := commit_ok (ready_of_stageAll known result) committed
  refine ⟨?_, temporaries, by omega, given⟩
  rw [kept, held, map_zipIdx]

end

end PluginBridge.Build
