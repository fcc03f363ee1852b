import PluginBridge.Build.Failure
import PluginBridge.Files.Tree

/-! Writing generated files all or none. Each file is first staged as a
temporary file beside its destination; then the staged files take their places
one by one. When one cannot, those before it give back what they replaced, last
first, and no temporary file stays. -/
namespace PluginBridge.Build
open Files

structure GeneratedFile where
  artifact : Artifact
  /-- The destination, from the output folder. -/
  path : String
  contents : String
deriving DecidableEq, Repr

/-- A file whose contents wait in a temporary file. -/
structure Staged where
  artifact : Artifact
  path : String
  folder : Place
  name : String
  number : Nat
deriving DecidableEq, Repr

/-- A destination that was written, with what it held before. -/
structure Committed where
  place : Place
  previous : Option ByteArray

/-- The bytes of the absolute path of the temporary file beside a path. -/
def temporarySize (working : Place) (path : String) : Nat :=
  (if isAbsolute path then 0 else Place.size working + 1) + folderSize path + 1 +
    Tree.temporaryNameSize

/-- Makes the folders above a path. -/
def makeAbove (tree : Tree) (working : Place) (path : String) : Tree × Option Place :=
  if longestPath < folderSize path then (tree, none)
  else tree.makeFolders working (names path).dropLast (isAbsolute path)

/-- Makes the folders above a path and stages the contents there. -/
def stage (tree : Tree) (working : Place) (output : String) (file : GeneratedFile) :
    Tree × Except Failure Staged :=
  let path := join output file.path
  let name := (names path).getLast?.getD ""
  match makeAbove tree working path with
  | (made, none) => (made, .error (.unwritable file.artifact path))
  | (made, some folder) =>
    if longestPath < temporarySize working path then
      (made, .error (.unwritable file.artifact path))
    else
      let (number, staged) := made.createTemporary folder file.contents.toUTF8
      (staged, .ok ⟨file.artifact, path, folder, name, number⟩)

def discardAll (tree : Tree) (staged : List Staged) : Tree :=
  staged.foldl (fun tree file => tree.discard file.number) tree

/-- Stages the files in order. When one cannot be staged, the temporary files of
those before it are removed. -/
def stageAll (working : Place) (output : String) :
    Tree → List Staged → List GeneratedFile → Tree × Except Failure (List Staged)
  | tree, done, [] => (tree, .ok done)
  | tree, done, file :: rest =>
    match stage tree working output file with
    | (after, .error failure) => (discardAll after done, .error failure)
    | (after, .ok staged) => stageAll working output after (done ++ [staged]) rest

/-- Gives back what the destinations held, starting with the last. -/
def rollback : Tree → List Committed → Tree
  | tree, [] => tree
  | tree, file :: rest =>
    let earlier := match file.previous with
      | some previous => tree.put file.place (.file previous)
      | none => tree.erase file.place
    rollback earlier rest

/-- The staged file at its destination, if it can go there. -/
def settle? (tree : Tree) (file : Staged) : Option Tree :=
  if namesFolder file.path || !fits file.path || !allowsName file.name then none
  else tree.settle? file.number (file.folder ++ [file.name])

/-- Moves the staged files to their destinations. `done` holds those already
there, the last one first. -/
def commit : Tree → List Committed → List Staged → Tree × Except Failure Unit
  | tree, _, [] => (tree, .ok ())
  | tree, done, file :: rest =>
    let place := file.folder ++ [file.name]
    let previous := tree.contents? place
    match settle? tree file with
    | some after => commit after (⟨place, previous⟩ :: done) rest
    | none =>
      (discardAll (rollback tree done) (file :: rest), .error (.unwritable file.artifact file.path))

/-- Writes the files below an output folder and gives their paths. -/
def writeAll (tree : Tree) (working : Place) (output : String) (files : List GeneratedFile) :
    Tree × Except Failure (List String) :=
  match stageAll working output tree [] files with
  | (staged, .error failure) => (staged, .error failure)
  | (staged, .ok waiting) =>
    match commit staged [] waiting with
    | (after, .error failure) => (after, .error failure)
    | (after, .ok ()) => (after, .ok (waiting.map (·.path)))

end PluginBridge.Build
