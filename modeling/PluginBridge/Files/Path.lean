import PluginBridge.Text.Segments

/-! Paths as texts: names joined by slashes. Empty names and single points stand
for nothing, a path that begins with a slash starts at the root, and one that
ends with a slash can only be a folder. -/
namespace PluginBridge.Files

/-- Whether a piece of a path leads nowhere. -/
def standsStill (piece : String) : Bool :=
  piece == "" || piece == "."

/-- The names along a path. -/
def names (path : String) : List String :=
  (Text.piecesAt '/' path).filter fun name => !standsStill name

def isAbsolute (path : String) : Bool :=
  path.toList.head? == some '/'

/-- The path of an entry inside a folder. An absolute path stands for itself. -/
def join (folder entry : String) : String :=
  if isAbsolute entry || folder.isEmpty then entry
  else if folder.toList.getLast? == some '/' then folder ++ entry
  else folder ++ "/" ++ entry

/-- Whether a path can only be that of a folder. -/
def namesFolder (path : String) : Bool :=
  match (Text.piecesAt '/' path).getLast? with
  | some last => standsStill last || last == ".."
  | none => true

/-- The most bytes a name may have. -/
def longestName : Nat := 255

/-- The most bytes a path may have. -/
def longestPath : Nat := 4095

/-- The bytes of the path of the folder above the last name. It stays folded, since
comparing it with a limit would otherwise be tried by counting. -/
@[irreducible] def folderSize (path : String) : Nat :=
  let pieces := (Text.piecesAt '/' path).reverse.dropWhile standsStill
  ("/".intercalate ((pieces.drop 1).dropWhile standsStill).reverse).utf8ByteSize

/-- Whether a path is short enough to be followed. -/
def fits (path : String) : Bool :=
  path.utf8ByteSize ≤ longestPath

def isNullFree (path : String) : Bool :=
  path.toList.all (·.toNat != 0)

def allowsName (name : String) : Bool :=
  name.utf8ByteSize ≤ longestName && isNullFree name

/-- What follows the last point of the last name. A point in front does not
count, and neither does one in the name of the folder above. -/
def extension? (path : String) : Option String :=
  match (names path).getLast? with
  | none | some ".." => none
  | some name =>
    let pieces := Text.piecesAt '.' name
    if pieces.length ≤ 1 || pieces.dropLast.all String.isEmpty && pieces.length = 2 then none
    else pieces.getLast?

end PluginBridge.Files
