import PluginBridge.Text.Segments
import PluginBridge.Value

/-! Layers of settings. A layer is a table whose keys are sorted; laying one
over another unites tables key by key and replaces everything else. Dotted keys
name values inside tables. -/
namespace PluginBridge.Settings

abbrev Table := List (String × Value)

/-- Changes the value of a key, which keeps the keys sorted. -/
def changeKey (key : String) (change : Value → Value) : Table → Table
  | [] => [(key, change .null)]
  | (other, value) :: rest =>
    if key = other then (key, change value) :: rest
    else if key < other then (key, change .null) :: (other, value) :: rest
    else (other, value) :: changeKey key change rest

def entriesOf : Value → Table
  | .table entries => entries
  | _ => []

mutual

/-- The upper value where there is one, and the lower one elsewhere. -/
def overlay : Value → Value → Value
  | .table entries, lower => .table (overlayEntries entries (entriesOf lower))
  | upper, _ => upper

def overlayEntries : Table → Table → Table
  | [], lower => lower
  | (key, value) :: rest, lower => overlayEntries rest (changeKey key (overlay value) lower)

end

/-- Gives a key its value, whatever it had before, which keeps the keys sorted. -/
def put (key : String) (value : Value) (entries : Table) : Table :=
  changeKey key (fun _ => value) entries

theorem lookup_put_self (key : String) (value : Value) (entries : Table) :
    (put key value entries).lookup key = some value := by
  unfold put
  induction entries with
  | nil => simp [changeKey]
  | cons entry rest ih =>
    obtain ⟨other, old⟩ := entry
    simp only [changeKey]
    split
    · simp
    · split
      · simp
      · rename_i different _
        simp [List.lookup_cons, beq_eq_false_iff_ne.mpr different, ih]

theorem lookup_changeKey_of_ne {key other : String} (different : other ≠ key)
    (change : Value → Value) (entries : Table) :
    (changeKey key change entries).lookup other = entries.lookup other := by
  have differs : (other == key) = false := beq_eq_false_iff_ne.mpr different
  induction entries with
  | nil => simp [changeKey, List.lookup_cons, differs]
  | cons entry rest ih =>
    obtain ⟨present, old⟩ := entry
    simp only [changeKey]
    split
    · rename_i same
      subst same
      simp [List.lookup_cons, differs]
    · split
      · simp [List.lookup_cons, differs]
      · simp [List.lookup_cons, ih]

theorem lookup_put_of_ne {key other : String} (different : other ≠ key) (value : Value)
    (entries : Table) : (put key value entries).lookup other = entries.lookup other :=
  lookup_changeKey_of_ne different _ entries

mutual

/-- A value in which the keys of all tables are sorted. -/
def arranged : Value → Value
  | .table entries => .table (sorted entries)
  | .list items => .list (arrangedItems items)
  | value => value

/-- A table with its keys sorted, inside its values as well. -/
def sorted : Table → Table
  | [] => []
  | (key, value) :: rest => put key (arranged value) (sorted rest)

def arrangedItems : List Value → List Value
  | [] => []
  | item :: rest => arranged item :: arrangedItems rest

end

/-- Keys up to the first empty one. -/
def keysOf (path : String) : List String :=
  (Text.piecesAt '.' path).takeWhile fun key => !key.isEmpty

/-- A value under the keys of a path. -/
def nestUnder (value : Value) : List String → Value
  | [] => value
  | key :: rest => .table [(key, nestUnder value rest)]

def nest (path : String) (value : Value) : Value :=
  nestUnder value (keysOf path)

def findUnder : List String → Value → Option Value
  | [], value => some value
  | key :: rest, value =>
    match value with
    | .table entries =>
      match entries.lookup key with
      | some inner => findUnder rest inner
      | none => none
    | _ => none

/-- The value under a path. -/
def find? (path : String) (settings : Table) : Option Value :=
  findUnder (keysOf path) (.table settings)

end PluginBridge.Settings
