import PluginBridge.Decimal

/-! Values of which only the reader knows the shape: what a file, a variable or
a message holds before it is decoded. Tables name each value once. -/
namespace PluginBridge

/-- A number with a fraction. The last two are what arithmetic on the others may
give. -/
inductive Real where
  | finite (value : Decimal)
  | infinite (negative : Bool)
  | undefined
deriving DecidableEq, Repr

inductive Value where
  | null
  | flag (value : Bool)
  | whole (value : Int)
  | real (value : Real)
  | text (value : String)
  /-- A single character, where a source tells it from a text. -/
  | letter (value : Char)
  | list (items : List Value)
  | table (entries : List (String × Value))
deriving Repr

namespace Value

instance : Inhabited Value := ⟨.null⟩

mutual

/-- Whether two values are the same. Tables have to name their values in one order. -/
def same : Value → Value → Bool
  | .null, .null => true
  | .flag value, .flag other => value == other
  | .whole value, .whole other => value == other
  | .real value, .real other => value == other
  | .text value, .text other => value == other
  | .letter value, .letter other => value == other
  | .list items, .list others => sameItems items others
  | .table entries, .table others => sameEntries entries others
  | _, _ => false

def sameItems : List Value → List Value → Bool
  | [], [] => true
  | item :: items, other :: others => item.same other && sameItems items others
  | _, _ => false

def sameEntries : List (String × Value) → List (String × Value) → Bool
  | [], [] => true
  | (name, value) :: entries, (key, other) :: others =>
    name == key && value.same other && sameEntries entries others
  | _, _ => false

end

mutual

theorem same_iff (value other : Value) : value.same other = true ↔ value = other := by
  cases value with
  | list items => cases other <;> simp [same, sameItems_iff items]
  | table entries => cases other <;> simp [same, sameEntries_iff entries]
  | _ => cases other <;> simp [same]

theorem sameItems_iff (items others : List Value) :
    sameItems items others = true ↔ items = others := by
  cases items with
  | nil => cases others <;> simp [sameItems]
  | cons item rest => cases others <;> simp [sameItems, same_iff item, sameItems_iff rest]

theorem sameEntries_iff (entries others : List (String × Value)) :
    sameEntries entries others = true ↔ entries = others := by
  cases entries with
  | nil => cases others <;> simp [sameEntries]
  | cons entry rest =>
    obtain ⟨name, value⟩ := entry
    cases others <;>
      simp [sameEntries, Prod.ext_iff, and_assoc, same_iff value, sameEntries_iff rest]

end

instance : DecidableEq Value := fun value other =>
  decidable_of_iff _ (same_iff value other)

/-- A text, or nothing in its place. -/
def optionalText : Option String → Value
  | some value => .text value
  | none => .null

def field? (name : String) : Value → Option Value
  | .table entries => entries.lookup name
  | _ => none

end Value
end PluginBridge
