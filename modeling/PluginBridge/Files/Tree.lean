import PluginBridge.Files.Path

/-! A tree of files. Folders and files are listed by the names that lead to
them; the root is always there. Temporary files are kept apart: they have a
number instead of a lasting name, until they are given one. -/
namespace PluginBridge.Files

inductive Entry where
  | folder
  | file (contents : ByteArray)

/-- The names from the root. -/
abbrev Place := List String

/-- The bytes of the absolute path of a place. -/
def Place.size (place : Place) : Nat :=
  place.foldl (fun total name => total + (name.utf8ByteSize + 1)) 0

structure Temporary where
  number : Nat
  folder : Place
  contents : ByteArray

structure Tree where
  entries : List (Place × Entry)
  temporaries : List Temporary
  /-- The number of the next temporary file. -/
  next : Nat

namespace Tree

def empty : Tree := ⟨[], [], 0⟩

def find? (tree : Tree) (place : Place) : Option Entry :=
  if place = [] then some .folder else tree.entries.lookup place

def isFolder (tree : Tree) (place : Place) : Bool :=
  match tree.find? place with
  | some .folder => true
  | _ => false

def contents? (tree : Tree) (place : Place) : Option ByteArray :=
  match tree.find? place with
  | some (.file contents) => some contents
  | _ => none

def putEntry (place : Place) (entry : Entry) : List (Place × Entry) → List (Place × Entry)
  | [] => [(place, entry)]
  | (other, old) :: rest =>
    if other = place then (place, entry) :: rest else (other, old) :: putEntry place entry rest

/-- Puts an entry at a place, whatever was there. -/
def put (tree : Tree) (place : Place) (entry : Entry) : Tree :=
  { tree with entries := putEntry place entry tree.entries }

def erase (tree : Tree) (place : Place) : Tree :=
  { tree with entries := tree.entries.filter fun (other, _) => other ≠ place }

/-- Follows names from a folder. Every name but the last has to be that of a
folder; two points lead back. -/
def follow (tree : Tree) : Place → List String → Option Place
  | place, [] => some place
  | place, name :: rest =>
    if !tree.isFolder place then none
    else if name = ".." then follow tree place.dropLast rest
    else follow tree (place ++ [name]) rest

/-- The place a path leads to, which may be empty. -/
def locate (tree : Tree) (working : Place) (path : String) : Option Place :=
  follow tree (if isAbsolute path then [] else working) (names path)

/-- What is at the end of a path. -/
def at? (tree : Tree) (working : Place) (path : String) : Option Entry :=
  if !isNullFree path || !fits path || path.isEmpty then none
  else match (tree.locate working path).bind tree.find? with
    | some (.file contents) => if namesFolder path then none else some (.file contents)
    | found => found

def read? (tree : Tree) (working : Place) (path : String) : Option ByteArray :=
  match tree.at? working path with
  | some (.file contents) => some contents
  | _ => none

/-- Makes the missing folders along names, up to the first that cannot be
made: a file is in the way, or the name is not allowed. -/
def makeAlong (tree : Tree) : Place → List String → Tree × Option Place
  | place, [] => (tree, some place)
  | place, name :: rest =>
    if name = ".." then makeAlong tree place.dropLast rest
    else match tree.find? (place ++ [name]) with
      | some .folder => makeAlong tree (place ++ [name]) rest
      | some (.file _) => (tree, none)
      | none =>
        if allowsName name then
          makeAlong (tree.put (place ++ [name]) .folder) (place ++ [name]) rest
        else (tree, none)

def makeFolders (tree : Tree) (working : Place) (names : List String) (absolute : Bool) :
    Tree × Option Place :=
  if names.all isNullFree then tree.makeAlong (if absolute then [] else working) names
  else (tree, none)

/-- The bytes of the name that a temporary file goes by. -/
def temporaryNameSize : Nat := 10

/-- Writes a temporary file into a folder and gives its number. -/
def createTemporary (tree : Tree) (folder : Place) (contents : ByteArray) : Nat × Tree :=
  (tree.next,
    { tree with temporaries := tree.temporaries ++ [⟨tree.next, folder, contents⟩],
                next := tree.next + 1 })

def discard (tree : Tree) (number : Nat) : Tree :=
  { tree with temporaries := tree.temporaries.filter (·.number ≠ number) }

/-- Gives a temporary file its lasting place, unless a folder is there. -/
def settle? (tree : Tree) (number : Nat) (place : Place) : Option Tree :=
  match tree.temporaries.find? (·.number = number) with
  | none => none
  | some temporary =>
    if tree.isFolder place then none
    else some ((tree.discard number).put place (.file temporary.contents))

/-- Everything below a place, by the names from there. -/
def below (tree : Tree) (place : Place) : List (Place × Entry) :=
  tree.entries.filterMap fun (other, entry) =>
    if place.isPrefixOf other && place.length < other.length then
      some (other.drop place.length, entry)
    else none

end Tree
end PluginBridge.Files
