import PluginBridge.Document
import PluginBridge.Value

/-! The JSON spelling of values, for messages: everything on one line. Numbers
that JSON lacks become null. -/
namespace PluginBridge.Value
open Document.Json (spell)

/-- A number as its digits and a power of ten. -/
def spellDecimal (number : Decimal) : String :=
  (if number.negative then "-" else "") ++ toString number.digits ++ "e" ++ toString number.exponent

mutual

def json : Value → String
  | .null | .real (.infinite _) | .real .undefined => "null"
  | .flag value => if value then "true" else "false"
  | .whole value => toString value
  | .real (.finite value) => spellDecimal value
  | .text value => spell value
  | .letter value => spell value.toString
  | .list items => "[" ++ ",".intercalate (jsonItems items) ++ "]"
  | .table entries => "\x7b" ++ ",".intercalate (jsonEntries entries) ++ "\x7d"

def jsonItems : List Value → List String
  | [] => []
  | item :: rest => item.json :: jsonItems rest

def jsonEntries : List (String × Value) → List String
  | [] => []
  | (name, value) :: rest => (spell name ++ ":" ++ value.json) :: jsonEntries rest

end

end PluginBridge.Value
