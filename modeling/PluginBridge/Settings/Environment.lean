import PluginBridge.Settings.Inline
import PluginBridge.Settings.Layer
import PluginBridge.Text.Label

/-! The layer of environment variables. A variable takes part when its name
begins with the expected stem in any letter case; the rest of the name, in small
letters and with double underscores as separators, is a dotted key. -/
namespace PluginBridge.Settings.Environment

/-- A name without its stem. -/
def dropStem? (stem name : String) : Option (List Char) :=
  if Text.completes stem name then some (name.toList.drop stem.length) else none

/-- Double underscores become points, from the left. -/
def separate : List Char → List Char
  | '_' :: '_' :: rest => '.' :: separate rest
  | c :: rest => c :: separate rest
  | [] => []

/-- The dotted key of a variable. Blanks around the name and around what follows
the stem do not count. A name with an empty part has none. -/
def key? (stem name : String) : Option String :=
  match dropStem? stem (String.ofList (Text.trim name.toList)) with
  | none => none
  | some rest =>
    let key := Text.trim (separate rest)
    if (Text.cutAt '.' key).any List.isEmpty then none
    else some (String.ofList (key.map Char.toLower))

/-- The layer of a list of variables, of which the later ones win. -/
def layerOf (stem : String) : List (String × String) → Table → Table
  | [], layer => layer
  | (name, text) :: rest, layer =>
    match key? stem name with
    | none => layerOf stem rest layer
    | some key =>
      layerOf stem rest (overlayEntries (entriesOf (nest key (Inline.parse text))) layer)

/-- The layer of all variables, taken in the order of their names. -/
def layer (stem : String) (environment : List (String × String)) : Table :=
  layerOf stem (environment.mergeSort fun (first, _) (second, _) => first ≤ second) []

end PluginBridge.Settings.Environment
