import PluginBridge.Settings.Layer
import PluginBridge.Toml.Document

/-! The layer of a settings file. A table inside it may stand for a single value:
it then holds that value under a key kept for this purpose, and its other keys do
not count. The outermost table always stands for itself. -/
namespace PluginBridge.Settings.File

/-- The key under which a table holds the value it stands for. -/
def valueKey : String := "___figment_value_value"

/-- The key under which a table holds the number of the source of its value,
which is no entry of the table. -/
def sourceKey : String := "___figment_value_id"

def isWhole : Value → Bool
  | .whole _ => true
  | _ => false

/-- What a table stands for. A source has to be a number. -/
def meaning? (entries : Table) : Option Value :=
  if (entries.lookup sourceKey).all isWhole then
    some ((entries.lookup valueKey).getD (.table (entries.filter fun (key, _) => key != sourceKey)))
  else none

mutual

/-- A value in which each table has given way to what it stands for. -/
def resolved? : Value → Option Value
  | .table entries => (resolvedEntries? entries).bind meaning?
  | .list items => (resolvedItems? items).map .list
  | value => some value

def resolvedEntries? : Table → Option Table
  | [] => some []
  | (key, value) :: rest =>
    match resolved? value, resolvedEntries? rest with
    | some value, some rest => some ((key, value) :: rest)
    | _, _ => none

def resolvedItems? : List Value → Option (List Value)
  | [] => some []
  | item :: rest =>
    match resolved? item, resolvedItems? rest with
    | some item, some rest => some (item :: rest)
    | _, _ => none

end

/-- The layer that the bytes of a file spell. -/
def layer? (bytes : ByteArray) : Option Table :=
  (((String.fromUTF8? bytes).bind Toml.parse?).bind resolvedEntries?).map sorted

end PluginBridge.Settings.File
